import Teller.Text.CaseTable

/-!
# Upper and lower case

Full case mapping: a character may become several, and a capital sigma at the end of a word becomes
the final small sigma.
-/

namespace Teller.Text

/-- The upper-case form of one character, possibly of several characters. -/
def upperOf (c : Char) : List Char :=
  if c.toNat < 128 then [c.toUpper]
  else match upperExpansions.lookup c.toNat with
    | some codes => codes.map Char.ofNat
    | none => [shifted upperShifts c]

/-- The lower-case form of one character, wherever it stands. -/
def lowerOf (c : Char) : List Char :=
  if c.toNat < 128 then [c.toLower]
  else if c == 'İ' then ['i', '̇']
  else [shifted lowerShifts c]

/-- Characters that are passed over in the search for a neighbouring cased letter; in ASCII these
are the apostrophe, the full stop, the colon, the circumflex and the grave accent. -/
def isCaseless (c : Char) : Bool :=
  if c.toNat < 128 then [39, 46, 58, 94, 96].contains c.toNat else Ranges.has caselessRanges c

def isCased (c : Char) : Bool :=
  if c.toNat < 128 then c.isAlpha else Ranges.has casedRanges c

/-- The first character that is not passed over has a case. -/
def startsCased (cs : List Char) : Bool :=
  match cs.dropWhile isCaseless with
  | c :: _ => isCased c
  | [] => false

/-- Lower case of the text `cs` that follows `before`, which is written backwards. A capital sigma
is final if a cased letter stands before it and none after it. -/
def lowerFrom (before : List Char) : List Char → List Char
  | [] => []
  | c :: rest =>
    let small :=
      if c == 'Σ' && startsCased before && !startsCased rest then ['ς'] else lowerOf c
    small ++ lowerFrom (c :: before) rest

def lower (s : String) : String := String.ofList (lowerFrom [] s.toList)

def upper (s : String) : String := String.ofList (s.toList.flatMap upperOf)

end Teller.Text
