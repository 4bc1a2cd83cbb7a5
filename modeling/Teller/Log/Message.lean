import Teller.Document
import Teller.Number.Conversion

/-!
# Messages with arguments

A message may have directives, each of which writes an argument: `%s` its text, `%r` its shown form,
`%d` a whole number, `%x` one in hexadecimal, `%f` a number with places. A name in parentheses picks
an argument of a table; a percent sign after a percent sign stands for itself. A message whose
directives do not fit the arguments cannot be written.
-/

namespace Teller.Log

/-- Arguments in order, or by name. -/
inductive Arguments where
  | inOrder (values : List Document)
  | byName (values : List (String × Document))

/-- What a directive asks for. -/
structure Directive where
  name : Option String := none
  flags : List Char := []
  width : Nat := 0
  places : Option Nat := none
  form : Char

namespace Directive

def has (d : Directive) (flag : Char) : Bool := d.flags.contains flag

/-- The text filled up to the width, with blanks on the left unless the flags say otherwise. -/
def padded (d : Directive) (cs : List Char) : List Char :=
  let missing := List.replicate (d.width - cs.length) ' '
  if d.has '-' then cs ++ missing else missing ++ cs

/-- A number, given its sign and digits, filled up to the width. -/
def paddedNumber (d : Directive) (negative : Bool) (digits : List Char) : List Char :=
  let sign := if negative then ['-'] else if d.has '+' then ['+'] else if d.has ' ' then [' '] else []
  if d.has '0' && !d.has '-' then
    sign ++ List.replicate (d.width - sign.length - digits.length) '0' ++ digits
  else d.padded (sign ++ digits)

/-- At least as many digits as there are places. -/
def leastDigits (d : Directive) (digits : List Char) : List Char :=
  List.replicate (d.places.getD 0 - digits.length) '0' ++ digits

def wholeOf? : Document → Option Int
  | .whole n => some n
  | .flag b => some (if b then 1 else 0)
  | .real x => (Number.wholeOf x).toOption
  | _ => none

def realOf? : Document → Option Float
  | .real x => some x
  | .whole n => Number.ofInt? n
  | .flag b => some (if b then 1 else 0)
  | _ => none

def inBase (d : Directive) (base : Nat) (mark : List Char) (n : Int) : List Char :=
  let digits := d.leastDigits (Nat.toDigits base n.natAbs)
  d.paddedNumber (n < 0) ((if d.has '#' then mark else []) ++ digits)

/-- A whole number that is not given as a double. -/
def exactWholeOf? : Document → Option Int
  | .real _ => none
  | value => wholeOf? value

def withPlaces (d : Directive) (x : Float) : List Char :=
  let digits := (Number.fixed (d.places.getD 6) x.abs).toList
  let negative := x < 0 || (x == 0 && 1 / x < 0)
  d.paddedNumber negative digits

/-- A text, cut to the places. -/
def ofText (d : Directive) (s : String) : List Char :=
  let cs := s.toList
  d.padded (match d.places with
    | some n => cs.take n
    | none => cs)

/-- The written form of an argument. -/
def write? (d : Directive) (value : Document) : Option (List Char) :=
  match d.form with
  | 's' => some (d.ofText value.plain)
  | 'r' => some (d.ofText value.shown)
  | 'd' | 'i' | 'u' => (wholeOf? value).map fun n => d.inBase 10 [] n
  | 'x' => (exactWholeOf? value).map fun n => d.inBase 16 ['0', 'x'] n
  | 'X' => (exactWholeOf? value).map fun n => (d.inBase 16 ['0', 'x'] n).map Char.toUpper
  | 'o' => (exactWholeOf? value).map fun n => d.inBase 8 ['0', 'o'] n
  | 'f' | 'F' => (realOf? value).map d.withPlaces
  | _ => none

end Directive

/-- A name in parentheses, if there is one, and the rest. Parentheses inside must be balanced. -/
def splitName? : (depth : Nat) → List Char → Option (List Char × List Char)
  | _, [] => none
  | depth, '(' :: rest => (splitName? (depth + 1) rest).map fun (name, rest) => ('(' :: name, rest)
  | 0, ')' :: rest => some ([], rest)
  | depth + 1, ')' :: rest => (splitName? depth rest).map fun (name, rest) => (')' :: name, rest)
  | depth, c :: rest => (splitName? depth rest).map fun (name, rest) => (c :: name, rest)

/-- The number of digits at the start of a text, and the rest. -/
def splitCount (cs : List Char) : Nat × List Char :=
  (Number.ofDigits (cs.takeWhile Char.isDigit), cs.dropWhile Char.isDigit)

/-- The directive after a percent sign, and the rest. -/
def directive? (cs : List Char) : Option (Directive × List Char) := do
  let (name, cs) ← match cs with
    | '(' :: rest => (splitName? 0 rest).map fun (name, rest) => (some (String.ofList name), rest)
    | cs => some (none, cs)
  let isFlag (c : Char) : Bool := ['-', '+', ' ', '#', '0'].contains c
  let flags := cs.takeWhile isFlag
  let (width, cs) := splitCount (cs.dropWhile isFlag)
  let (places, cs) := match cs with
    | '.' :: rest => ((some (splitCount rest).1 : Option Nat), (splitCount rest).2)
    | cs => (none, cs)
  let cs := match cs with
    | c :: rest => if ['h', 'l', 'L'].contains c then rest else cs
    | [] => cs
  match cs with
  | form :: rest => some ({ name, flags, width, places, form }, rest)
  | [] => none

/-- The argument that a directive writes, and the arguments that are left. -/
def take? (d : Directive) : Arguments → Option (Document × Arguments)
  | .byName values =>
    match d.name with
    | some name => ((Document.record values).get? name).map (·, .byName values)
    | none => some (.record values, .byName values)
  | .inOrder (value :: rest) => if d.name.isNone then some (value, .inOrder rest) else none
  | .inOrder [] => none

/-- Arguments by name need not be used; arguments in order must all be used. -/
def Arguments.areSpent : Arguments → Bool
  | .byName _ => true
  | .inOrder values => values.isEmpty

/-- Writes a message with its arguments. The fuel is the length of the message. -/
def writeFrom? : (fuel : Nat) → Arguments → List Char → Option (List Char)
  | _, args, [] => if args.areSpent then some [] else none
  | 0, _, _ :: _ => none
  | fuel + 1, args, '%' :: rest => do
    let (d, rest) ← directive? rest
    if d.form = '%' then return '%' :: (← writeFrom? fuel args rest)
    let (value, args) ← take? d args
    return (← d.write? value) ++ (← writeFrom? fuel args rest)
  | fuel + 1, args, c :: rest => (writeFrom? fuel args rest).map (c :: ·)

/-- A message with its arguments, if they fit. -/
def write? (message : String) (args : Arguments) : Option String :=
  (writeFrom? message.toList.length args message.toList).map String.ofList

end Teller.Log
