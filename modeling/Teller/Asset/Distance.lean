import Teller.Number.Scale

/-!
# Edit distance

The least number of insertions, deletions and substitutions of single characters that turn one text
into another, computed row by row, and the similarity of two texts that follows from it.
-/

namespace Teller.Asset

/-- What follows the entry `left` in the row of `x`, below the entries of the row before. -/
def rowAfter (x : Char) (left : Nat) : (b : List Char) → (above : List Nat) → List Nat
  | y :: b, diagonal :: up :: above =>
    let entry := min (min (up + 1) (left + 1)) (diagonal + if x = y then 0 else 1)
    entry :: rowAfter x entry b (up :: above)
  | _, _ => []

/-- The last row of the table, when `i` characters have led to the row `previous` and those of `a`
are left. -/
def lastRow (b : List Char) : (a : List Char) → (i : Nat) → (previous : List Nat) → List Nat
  | [], _, previous => previous
  | x :: a, i, previous => lastRow b a (i + 1) ((i + 1) :: rowAfter x (i + 1) b previous)

/-- The edit distance of two texts. -/
def distance (a b : List Char) : Nat :=
  if a = b then 0
  else if a.isEmpty then b.length
  else if b.isEmpty then a.length
  else (lastRow b a 0 (List.range (b.length + 1))).getLastD 0

/-- One for equal texts, less the part of the longer text that must be edited. -/
def similarityIn (α : Type) [Number.Scale α] (a b : List Char) : α :=
  let longest := max a.length b.length
  if longest = 0 then Number.Scale.one
  else Number.Scale.one -
    Number.Scale.decimal (distance a b) 0 / Number.Scale.decimal longest 0

def similarity (a b : String) : Float := similarityIn Float a.toList b.toList

end Teller.Asset
