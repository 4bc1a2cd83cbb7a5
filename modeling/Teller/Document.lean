import Teller.Number.Written
import Teller.Text.Quoted
import Teller.Text.Words

/-!
# Documents

Structured values: the content of answers, of the details of a failure and of log lines. A record
keeps its fields in order. Whole numbers and doubles are kept apart.
-/

namespace Teller

/-- A structured value. -/
inductive Document where
  | null
  | flag (value : Bool)
  | whole (value : Int)
  | real (value : Float)
  | text (value : String)
  | list (items : List Document)
  | record (fields : List (String × Document))

namespace Document

/-- A text, or null for none. -/
def text? : Option String → Document
  | some s => text s
  | none => null

def real? : Option Float → Document
  | some x => real x
  | none => null

def whole? : Option Int → Document
  | some n => whole n
  | none => null

def flag? : Option Bool → Document
  | some b => flag b
  | none => null

/-- A value in its own form, or null for none. -/
def orNull (form : α → Document) : Option α → Document
  | some a => form a
  | none => null

def texts (items : List String) : Document := list (items.map text)

/-- A list of values in their own form. -/
def listOf (form : α → Document) (items : List α) : Document := list (items.map form)

/-- The value of a field, the last one if the name occurs again. -/
def get? (name : String) : Document → Option Document
  | record fields => (fields.reverse.find? (·.1 == name)).map (·.2)
  | _ => none

/-! ## The line form -/

/-- A character of a text in the line form, where only printable ASCII stands for itself. Characters
beyond the sixteen-bit range are written as two escapes. -/
def lineCharacter (c : Char) : List Char :=
  if c == '"' || c == '\\' then ['\\', c]
  else if c == '\n' then ['\\', 'n']
  else if c == '\r' then ['\\', 'r']
  else if c == '\t' then ['\\', 't']
  else if c.toNat == 8 then ['\\', 'b']
  else if c.toNat == 12 then ['\\', 'f']
  else if 32 ≤ c.toNat && c.toNat < 127 then [c]
  else if c.toNat < 65536 then ['\\', 'u'] ++ Text.hex 4 c.toNat
  else
    let n := c.toNat - 65536
    ['\\', 'u'] ++ Text.hex 4 (55296 + n / 1024) ++ ['\\', 'u'] ++ Text.hex 4 (56320 + n % 1024)

/-- A text in double quotes, in ASCII. -/
def lineText (s : String) : String :=
  "\"" ++ String.ofList (s.toList.flatMap lineCharacter) ++ "\""

def lineReal (x : Float) : String :=
  if x.isNaN then "NaN"
  else if x.isInf then if x < 0 then "-Infinity" else "Infinity"
  else Number.full x

mutual

/-- The document on one line, with a space after each comma and colon. -/
def line : Document → String
  | null => "null"
  | flag b => if b then "true" else "false"
  | whole n => Number.ofInt n
  | real x => lineReal x
  | text s => lineText s
  | list items => "[" ++ Text.joined ", " (lineItems items) ++ "]"
  | record fields => "\x7b" ++ Text.joined ", " (lineFields fields) ++ "\x7d"

def lineItems : List Document → List String
  | [] => []
  | item :: items => line item :: lineItems items

def lineFields : List (String × Document) → List String
  | [] => []
  | (name, value) :: fields => (lineText name ++ ": " ++ line value) :: lineFields fields

end

/-! ## The shown form -/

mutual

/-- The form in which a value is shown inside a message: texts quoted, absence as `None`. -/
def shown : Document → String
  | null => "None"
  | flag b => if b then "True" else "False"
  | whole n => Number.ofInt n
  | real x => Number.full x
  | text s => Text.quoted s
  | list items => "[" ++ Text.joined ", " (shownItems items) ++ "]"
  | record fields => "\x7b" ++ Text.joined ", " (shownFields fields) ++ "\x7d"

def shownItems : List Document → List String
  | [] => []
  | item :: items => shown item :: shownItems items

def shownFields : List (String × Document) → List String
  | [] => []
  | (name, value) :: fields => (Text.quoted name ++ ": " ++ shown value) :: shownFields fields

end

/-- The text of a value: a text as it is, anything else as it is shown. -/
def plain : Document → String
  | text s => s
  | other => shown other

end Document

end Teller
