import Teller.Text.Pattern

/-!
# Patterns written as text

A pattern can be written down: characters stand for themselves, `^` and `$` for the ends of the
text, `.` for any character but a line feed, brackets for a class, parentheses for a group, `|`
separates alternatives, and `*`, `+` and `?` repeat what stands before them. A backslash takes its
meaning from the character after it, or introduces one of the classes `\d`, `\s` and `\w`.
-/

namespace Teller.Text.Pattern

/-- The pattern of a character after a backslash. -/
def afterBackslash (c : Char) : Pattern :=
  match c with
  | 'd' => one isDigit
  | 's' => one isBlank
  | 'w' => one isWord
  | 'b' => boundary
  | other => char other

/-- The items of a class up to its closing bracket, as ranges, and the rest. -/
def classItems? : List Char → Option (List (Char × Char) × List Char)
  | [] => none
  | ']' :: rest => some ([], rest)
  | low :: '-' :: high :: rest =>
    if high == ']' then some ([(low, low), ('-', '-')], rest)
    else (classItems? rest).map fun (items, rest) => ((low, high) :: items, rest)
  | c :: rest => (classItems? rest).map fun (items, rest) => ((c, c) :: items, rest)

/-- A class after its opening bracket. -/
def class? (cs : List Char) : Option (Pattern × List Char) :=
  let (negated, body) := match cs with
    | '^' :: rest => (true, rest)
    | rest => (false, rest)
  (classItems? body).map fun (items, rest) =>
    let has (c : Char) : Bool := items.any fun (low, high) => low ≤ c && c ≤ high
    (one fun c => has c != negated, rest)

/-- The pattern with the mark of repetition that follows it, if there is one. -/
def withMark (p : Pattern) : List Char → Pattern × List Char
  | '*' :: rest => (many p, rest)
  | '+' :: rest => (atLeast 1 p, rest)
  | '?' :: rest => (optional p, rest)
  | rest => (p, rest)

/-- Alternatives up to the end of the text or, inside a group, up to its closing parenthesis. `done`
is what stands before in the same alternative. The fuel is the length of the text. -/
def alternatives? : (fuel : Nat) → (inGroup : Bool) → (done : Pattern) → List Char →
    Option (Pattern × List Char)
  | 0, inGroup, done, cs => if inGroup || !cs.isEmpty then none else some (done, [])
  | fuel + 1, inGroup, done, cs =>
    match cs with
    | [] => if inGroup then none else some (done, [])
    | ')' :: rest => if inGroup then some (done, rest) else none
    | '|' :: rest => (alternatives? fuel inGroup empty rest).map fun (p, rest) =>
        (either done p, rest)
    | '(' :: rest => (alternatives? fuel true empty rest).bind fun (group, rest) =>
        let (group, rest) := withMark group rest
        alternatives? fuel inGroup (both done group) rest
    | '[' :: rest => (class? rest).bind fun (cls, rest) =>
        let (cls, rest) := withMark cls rest
        alternatives? fuel inGroup (both done cls) rest
    | '^' :: rest => alternatives? fuel inGroup (both done textStart) rest
    | '$' :: rest => alternatives? fuel inGroup (both done textEnd) rest
    | '\\' :: c :: rest =>
      let (p, rest) := withMark (afterBackslash c) rest
      alternatives? fuel inGroup (both done p) rest
    | c :: rest =>
      if c == '*' || c == '+' || c == '?' || c == '\\' then none
      else
        let p := if c == '.' then one (· != '\n') else char c
        let (p, rest) := withMark p rest
        alternatives? fuel inGroup (both done p) rest

/-- The pattern that a text describes, if it is well formed. -/
def ofText? (s : String) : Option Pattern :=
  (alternatives? (s.toList.length + 1) false empty s.toList).map (·.1)

end Teller.Text.Pattern
