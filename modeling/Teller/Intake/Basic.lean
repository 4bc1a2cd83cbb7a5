import Teller.Document
import Teller.Number.Conversion
import Teller.Text.Case

/-!
# Intake of records

Records that come from outside are read field by field. Every field is looked at, so that all
complaints are reported together, in the order of the fields. Fields that nobody asks for are passed
over.
-/

namespace Teller.Intake

/-- What is wrong with a value. -/
inductive Complaint.Kind where
  | missing | notText
  | notNumber | unreadableNumber
  | notWhole | unreadableWhole | fractional | notFinite
  | notFlag | unreadableFlag
  | notList | notTuple | notTable | notRecord
  | unknownMember | unknownLiteral
  | tooShort | tooSmall | tooGreat
  deriving DecidableEq, Repr

def Complaint.Kind.name : Complaint.Kind → String
  | missing => "missing"
  | notText => "string_type"
  | notNumber => "float_type"
  | unreadableNumber => "float_parsing"
  | notWhole => "int_type"
  | unreadableWhole => "int_parsing"
  | fractional => "int_from_float"
  | notFinite => "finite_number"
  | notFlag => "bool_type"
  | unreadableFlag => "bool_parsing"
  | notList => "list_type"
  | notTuple => "tuple_type"
  | notTable => "dict_type"
  | notRecord => "model_type"
  | unknownMember => "enum"
  | unknownLiteral => "literal_error"
  | tooShort => "too_short"
  | tooSmall => "greater_than_equal"
  | tooGreat => "less_than_equal"

/-- A complaint about the value at a path of field names and positions. -/
structure Complaint where
  path : List String
  kind : Complaint.Kind
  deriving DecidableEq, Repr

/-- A value that was read, or all complaints about it. -/
def Checked (α : Type) := Except (List Complaint) α

namespace Checked

variable {α β : Type}

def ok (a : α) : Checked α := Except.ok a

/-- A complaint about the value as a whole. -/
def complain (kind : Complaint.Kind) : Checked α := Except.error [⟨[], kind⟩]

/-- A function and its argument, both with their complaints. -/
def seq (f : Checked (α → β)) (x : Unit → Checked α) : Checked β :=
  match f, x () with
  | .ok f, .ok a => .ok (f a)
  | .ok _, .error e => .error e
  | .error e, .ok _ => .error e
  | .error e, .error e' => .error (e ++ e')

instance : Applicative Checked where
  pure := ok
  seq := seq

/-- The same value as a part of something greater, under a name. -/
def within (name : String) (r : Checked α) : Checked α :=
  Except.mapError (List.map fun c => { c with path := name :: c.path }) r

/-- All values of a list, or the complaints about all of them. -/
def all : List (Checked α) → Checked (List α)
  | [] => ok []
  | r :: rest => List.cons <$> r <*> all rest

end Checked

/-! ## Single values -/

section Values

open Checked

def text : Document → Checked String
  | .text s => ok s
  | _ => complain .notText

/-- The number of an unsigned numeral or of a word for one, after a sign. -/
def signedSize? (cs : List Char) : Option Float :=
  let (negative, cs) := Number.splitSign cs
  (Number.size? cs).map fun x => if negative then -x else x

/-- The text without underscores, if there are some and each stands alone inside. -/
def joinedGroups? (cs : List Char) : Option (List Char) :=
  let groups := Text.fields '_' cs
  if 1 < groups.length && groups.all (!·.isEmpty) then some groups.flatten else none

/-- The number of a text, which may have margins or underscores, but not both. -/
def numberOf? (s : String) : Option Float :=
  (signedSize? (Text.strip Number.isMargin s.toList)).or
    ((joinedGroups? s.toList).bind signedSize?)

/-- A number; texts and flags may stand for one. -/
def real : Document → Checked Float
  | .real x => ok x
  | .whole n => match Number.ofInt? n with
    | some x => ok x
    | none => complain .notNumber
  | .flag b => ok (if b then 1 else 0)
  | .text s => match numberOf? s with
    | some x => ok x
    | none => complain .unreadableNumber
  | _ => complain .notNumber

/-- The digits before a point that only zeros follow. -/
def withoutZeroFraction (cs : List Char) : List Char :=
  match cs.dropWhile (· != '.') with
  | '.' :: rest => if rest.all (· == '0') then cs.takeWhile (· != '.') else cs
  | _ => cs

/-- The whole number of a text, which may have margins, underscores and a fraction of zeros. -/
def wholeOf? (s : String) : Option Int :=
  let (negative, digits) := Number.splitSign (Text.strip Number.isMargin s.toList)
  let digits := withoutZeroFraction digits
  let digits := (joinedGroups? digits).getD digits
  if !digits.isEmpty && digits.all Char.isDigit then
    some (Number.signed negative (Number.ofDigits digits))
  else none

/-- A whole number; doubles without a fraction, texts and flags may stand for one. -/
def whole : Document → Checked Int
  | .whole n => ok n
  | .real x => match Number.truncate? x with
    | some n => if Number.isWhole x then ok n else complain .fractional
    | none => complain .notFinite
  | .flag b => ok (if b then 1 else 0)
  | .text s => match wholeOf? s with
    | some n => ok n
    | none => complain .unreadableWhole
  | _ => complain .notWhole

/-- The words for a flag, in lower case. -/
def flagWords : List (String × Bool) :=
  [("0", false), ("off", false), ("f", false), ("false", false), ("n", false), ("no", false),
    ("1", true), ("on", true), ("t", true), ("true", true), ("y", true), ("yes", true)]

/-- Zero and one stand for flags. -/
def flagOfWhole (n : Int) : Checked Bool :=
  if n = 0 then ok false else if n = 1 then ok true else complain .unreadableFlag

/-- A flag; words in any case and the numbers zero and one may stand for one. -/
def flag : Document → Checked Bool
  | .flag b => ok b
  | .text s => match flagWords.lookup (String.ofList (s.toList.map Char.toLower)) with
    | some b => ok b
    | none => complain .unreadableFlag
  | .whole n => flagOfWhole n
  | .real x => match Number.isWhole x, Number.truncate? x with
    | true, some n => flagOfWhole n
    | _, _ => complain .notFlag
  | _ => complain .notFlag

/-- A member of a family of names. -/
def member (ofName? : String → Option α) (kind : Complaint.Kind) : Document → Checked α
  | .text s => match ofName? s with
    | some a => ok a
    | none => complain kind
  | _ => complain kind

/-- A number between zero and one. -/
def share (d : Document) : Checked Float :=
  match real d with
  | .ok x => if 1 < x then complain .tooGreat else if x < 0 then complain .tooSmall else ok x
  | .error e => .error e

def list (read : Document → Checked α) : Document → Checked (List α)
  | .list items => all (items.mapIdx fun n item => (read item).within (Number.ofInt n))
  | _ => complain .notList

/-- A value that may be missing. -/
def nullable (read : Document → Checked α) : Document → Checked (Option α)
  | .null => ok none
  | d => some <$> read d

/-- A record, whose fields are then read. -/
def record (read : Document → Checked α) : Document → Checked α
  | d@(.record _) => read d
  | _ => complain .notRecord

end Values

/-! ## Fields -/

section Fields

open Checked

variable {α : Type}

/-- A field that must be there. -/
def required (name : String) (read : Document → Checked α) (d : Document) : Checked α :=
  match d.get? name with
  | some v => (read v).within name
  | none => (complain .missing).within name

/-- A field that has a value of its own if it is not there. -/
def defaulted (name : String) (read : Document → Checked α) (default : α) (d : Document) :
    Checked α :=
  match d.get? name with
  | some v => (read v).within name
  | none => ok default

/-- A field that may be missing or null. -/
def optional (name : String) (read : Document → Checked α) (d : Document) : Checked (Option α) :=
  defaulted name (nullable read) none d

/-- A field of a revision, with whether it is given at all. -/
def given (name : String) (read : Document → Checked α) (d : Document) :
    Checked (Option (Option α)) :=
  match d.get? name with
  | some v => some <$> (nullable read v).within name
  | none => ok none

end Fields

/-! ## Reports -/

def Complaint.document (c : Complaint) : Document :=
  .record [("loc", .texts c.path), ("type", .text c.kind.name)]

end Teller.Intake
