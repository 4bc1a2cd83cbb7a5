import Teller.Text.Characters

/-!
# Patterns

Patterns over characters, with greedy and lazy repetition, whole-word boundaries and anchors. A
match is described by what it leaves: `rests p` lists, in order of preference, the places where a
match of `p` can end. Preference decides between several matches, as usual for backtracking
patterns: the first alternative before the second, more repetitions before fewer unless the
repetition is lazy.
-/

namespace Teller.Text

/-- A place in a text: the character before it, if any, and what follows. -/
structure Place where
  before : Option Char
  rest : List Char
  deriving DecidableEq

def Place.start (text : List Char) : Place := ⟨none, text⟩

/-- The place between a word character and something else. -/
def Place.isBoundary (at_ : Place) : Bool :=
  (at_.before.map isWord).getD false != (at_.rest.head?.map isWord).getD false

/-- A pattern. Repetition has a least count and, unless it is unbounded, a number of further ones.
-/
inductive Pattern where
  | empty
  | one (accepts : Char → Bool)
  | boundary
  | textStart
  | textEnd
  | both (first second : Pattern)
  | either (first second : Pattern)
  | repeated (isLazy : Bool) (least : Nat) (further : Option Nat) (part : Pattern)

namespace Pattern

/-- Ends of at most `further` repetitions of a step. -/
def furtherRests (step : Place → List Place) (isLazy : Bool) : (further : Nat) → Place → List Place
  | 0, p => [p]
  | further + 1, p =>
    let more := (step p).flatMap (furtherRests step isLazy further)
    if isLazy then p :: more else more ++ [p]

/-- Ends of at least `least` and at most `further` more repetitions of a step. -/
def repeatedRests (step : Place → List Place) (isLazy : Bool) (least further : Nat) (p : Place) :
    List Place :=
  match least with
  | 0 => furtherRests step isLazy further p
  | least + 1 => (step p).flatMap (repeatedRests step isLazy least further)

/-- Where a match that begins at a place can end, the preferred end first. An unbounded repetition
needs no more steps than there are characters left. A text also ends before its last line feed. -/
def rests : Pattern → Place → List Place
  | empty, p => [p]
  | one accepts, p =>
    match p.rest with
    | c :: rest => if accepts c then [⟨some c, rest⟩] else []
    | [] => []
  | boundary, p => if p.isBoundary then [p] else []
  | textStart, p => if p.before.isNone then [p] else []
  | textEnd, p => if p.rest.isEmpty || p.rest == ['\n'] then [p] else []
  | both first second, p => (rests first p).flatMap (rests second)
  | either first second, p => rests first p ++ rests second p
  | repeated isLazy least further part, p =>
    repeatedRests (rests part) isLazy least (further.getD p.rest.length) p

/-- A character that a letter in lower case stands for when case is ignored: besides the two cases
of the letter the dotted and dotless i, the long s and the Kelvin sign. -/
def isLetter (letter c : Char) : Bool :=
  c.toLower == letter || letter == 'i' && (c == '\u0130' || c == '\u0131') ||
    letter == 's' && c == '\u017f' || letter == 'k' && c == '\u212a'

/-- Letters of the Latin alphabet when case is ignored. -/
def isAnyLetter (c : Char) : Bool :=
  c.isAlpha || ['\u0130', '\u0131', '\u017f', '\u212a'].contains c

def char (c : Char) : Pattern := one (· == c)

def anyOf (cs : List Char) : Pattern := one cs.contains

/-- A sequence of patterns. -/
def all : List Pattern → Pattern
  | [] => empty
  | [p] => p
  | p :: ps => both p (all ps)

def text (s : String) : Pattern := all (s.toList.map char)

/-- The given text in lower case, when case is ignored. -/
def caseless (s : String) : Pattern :=
  all (s.toList.map fun c => if c.isAlpha then one (isLetter c) else char c)

/-- The first of several patterns that matches. -/
def choice : List Pattern → Pattern
  | [] => one fun _ => false
  | [p] => p
  | p :: ps => either p (choice ps)

/-- The pattern or nothing, the pattern preferred. -/
def optional (p : Pattern) : Pattern := repeated false 0 (some 1) p

/-- Any number of repetitions, more preferred. -/
def many (p : Pattern) : Pattern := repeated false 0 none p

/-- At least so many repetitions, more preferred. -/
def atLeast (least : Nat) (p : Pattern) : Pattern := repeated false least none p

def exactly (count : Nat) (p : Pattern) : Pattern := repeated false count (some 0) p

/-- The preferred end of a match that begins at a place. -/
def rest? (p : Pattern) (at_ : Place) : Option Place := (rests p at_).head?

/-- A match begins at the place or further on. -/
def matchesFrom (p : Pattern) (before : Option Char) : List Char → Bool
  | [] => (rest? p ⟨before, []⟩).isSome
  | c :: rest => (rest? p ⟨before, c :: rest⟩).isSome || matchesFrom p (some c) rest

/-- A match begins somewhere in the text. -/
def matchesIn (p : Pattern) (s : String) : Bool := matchesFrom p none s.toList

end Pattern

end Teller.Text
