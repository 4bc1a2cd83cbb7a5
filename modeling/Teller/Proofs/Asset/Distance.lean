import Mathlib.Algebra.Order.Field.Basic
import Mathlib.Order.Bounds.Basic
import Mathlib.Tactic.Linarith
import Teller.Asset.Distance

/-!
# Edits

What the edit distance counts: texts that become one another by edits of single characters. A
recurrence from the front gives a way to do with so many edits, and as every single edit changes the
distance to any third text by one at most, no way to do with fewer. Edits of texts read backwards
are as many, so that the recurrence holds from the back as well. By it every row of the table holds
the distances from what has been read of the first text to all that the second text begins with.

    leastEdits                   the distance by recursion from the front
    edited_leastEdits            so many edits suffice
    Edited.leastEdits_le         fewer edits do not suffice
    leastEdits_concat_concat     the recurrence from the back
    rowAfter_row, lastRow_row    what the rows of the table hold
    distance_eq_leastEdits       the table has the distance in its corner
    similarityIn_rat             the similarity, free of rounding
    distance_is_edit_distance    the distance is the least number of edits, and so a metric
-/

namespace Teller.Asset

variable {a b c : List Char} {x y : Char} {m n : Nat}

/-! ## Edits -/

/-- One text becomes another one by a single edit: a character is inserted, removed or replaced. -/
inductive Edit : List Char → List Char → Prop
  | insert (before after : List Char) (x : Char) : Edit (before ++ after) (before ++ x :: after)
  | remove (before after : List Char) (x : Char) : Edit (before ++ x :: after) (before ++ after)
  | replace (before after : List Char) (x y : Char) :
      Edit (before ++ x :: after) (before ++ y :: after)

/-- One text becomes another one by so many edits, one after the other. -/
inductive Edited : Nat → List Char → List Char → Prop
  | unchanged (a : List Char) : Edited 0 a a
  | step {a b c : List Char} {n : Nat} (first : Edit a b) (rest : Edited n b c) : Edited (n + 1) a c

namespace Edit

theorem symm (h : Edit a b) : Edit b a := by
  cases h with
  | insert before after x => exact .remove before after x
  | remove before after x => exact .insert before after x
  | replace before after x y => exact .replace before after y x

theorem cons (x : Char) (h : Edit a b) : Edit (x :: a) (x :: b) := by
  cases h with
  | insert before after y => exact .insert (x :: before) after y
  | remove before after y => exact .remove (x :: before) after y
  | replace before after y z => exact .replace (x :: before) after y z

theorem reverse (h : Edit a b) : Edit a.reverse b.reverse := by
  cases h with
  | insert before after x => simpa using Edit.insert after.reverse before.reverse x
  | remove before after x => simpa using Edit.remove after.reverse before.reverse x
  | replace before after x y => simpa using Edit.replace after.reverse before.reverse x y

end Edit

namespace Edited

theorem trans (h : Edited m a b) (h' : Edited n b c) : Edited (m + n) a c := by
  induction h with
  | unchanged => rwa [Nat.zero_add]
  | step first _ ih =>
    rw [Nat.succ_add]
    exact .step first (ih h')

theorem single (h : Edit a b) : Edited 1 a b := .step h (.unchanged b)

theorem symm (h : Edited n a b) : Edited n b a := by
  induction h with
  | unchanged a => exact .unchanged a
  | step first _ ih => exact ih.trans (single first.symm)

theorem cons (x : Char) (h : Edited n a b) : Edited n (x :: a) (x :: b) := by
  induction h with
  | unchanged a => exact .unchanged (x :: a)
  | step first _ ih => exact .step (first.cons x) ih

theorem eq_of_zero (h : Edited 0 a b) : a = b := by
  cases h with
  | unchanged => rfl

theorem reverse (h : Edited n a b) : Edited n a.reverse b.reverse := by
  induction h with
  | unchanged a => exact .unchanged a.reverse
  | step first _ ih => exact .step first.reverse ih

end Edited

/-! ## The recurrence -/

/-- The distance by recursion from the front: the first character of either text is removed or
inserted, or the one is replaced by the other. -/
def leastEdits : (a b : List Char) → Nat
  | [], b => b.length
  | x :: a, [] => leastEdits a [] + 1
  | x :: a, y :: b =>
    min (min (leastEdits a (y :: b) + 1) (leastEdits (x :: a) b + 1))
      (leastEdits a b + if x = y then 0 else 1)

theorem leastEdits_nil_left (b : List Char) : leastEdits [] b = b.length := by
  rw [leastEdits]

theorem leastEdits_cons_nil (x : Char) (a : List Char) :
    leastEdits (x :: a) [] = leastEdits a [] + 1 := by
  rw [leastEdits]

theorem leastEdits_cons_cons (x y : Char) (a b : List Char) : leastEdits (x :: a) (y :: b) =
    min (min (leastEdits a (y :: b) + 1) (leastEdits (x :: a) b + 1))
      (leastEdits a b + if x = y then 0 else 1) := by
  rw [leastEdits]

theorem leastEdits_nil_right (a : List Char) : leastEdits a [] = a.length := by
  induction a with
  | nil => exact leastEdits_nil_left []
  | cons x a ih => rw [leastEdits_cons_nil, ih, List.length_cons]

theorem leastEdits_remove_le (x : Char) (a b : List Char) :
    leastEdits (x :: a) b ≤ leastEdits a b + 1 := by
  cases b with
  | nil => exact (leastEdits_cons_nil x a).le
  | cons y b =>
    rw [leastEdits_cons_cons]
    omega

theorem leastEdits_insert_le (y : Char) (a b : List Char) :
    leastEdits a (y :: b) ≤ leastEdits a b + 1 := by
  cases a with
  | nil => simp [leastEdits_nil_left]
  | cons x a =>
    rw [leastEdits_cons_cons]
    omega

theorem leastEdits_self (a : List Char) : leastEdits a a = 0 := by
  induction a with
  | nil => exact leastEdits_nil_left []
  | cons x a ih => simp [leastEdits_cons_cons, ih]

/-! ## So many edits suffice -/

theorem edited_insert (y : Char) (h : Edited n a b) : Edited (n + 1) a (y :: b) :=
  h.trans (.single (.insert [] b y))

theorem edited_remove (x : Char) (h : Edited n a b) : Edited (n + 1) (x :: a) b :=
  .step (.remove [] a x) h

theorem edited_replace (x y : Char) (h : Edited n a b) :
    Edited (n + if x = y then 0 else 1) (x :: a) (y :: b) := by
  split
  · next same =>
    subst same
    exact h.cons x
  · exact .step (.replace [] a x y) (h.cons y)

/-- So many edits suffice: the least of the three entries tells what is done with the first
characters. -/
theorem edited_leastEdits (a b : List Char) : Edited (leastEdits a b) a b := by
  induction a generalizing b with
  | nil =>
    induction b with
    | nil =>
      rw [leastEdits_nil_left]
      exact .unchanged []
    | cons y b ih =>
      rw [leastEdits_nil_left] at ih ⊢
      exact edited_insert y ih
  | cons x a iha =>
    induction b with
    | nil =>
      rw [leastEdits_cons_nil]
      exact edited_remove x (iha [])
    | cons y b ihb =>
      rw [leastEdits_cons_cons]
      rcases min_choice (min (leastEdits a (y :: b) + 1) (leastEdits (x :: a) b + 1))
        (leastEdits a b + if x = y then 0 else 1) with either | replaced
      · rw [either]
        rcases min_choice (leastEdits a (y :: b) + 1) (leastEdits (x :: a) b + 1) with removed | inserted
        · rw [removed]
          exact edited_remove x (iha (y :: b))
        · rw [inserted]
          exact edited_insert y ihb
      · rw [replaced]
        exact edited_replace x y (iha b)

/-! ## Fewer edits do not suffice -/

/-- Another character at the start may save one edit, but not more. -/
theorem leastEdits_le_remove (x : Char) (a c : List Char) :
    leastEdits a c ≤ leastEdits (x :: a) c + 1 := by
  induction c with
  | nil =>
    rw [leastEdits_cons_nil]
    omega
  | cons z c ih =>
    have inserted := leastEdits_insert_le z a c
    rw [leastEdits_cons_cons]
    omega

theorem leastEdits_replace_le (x y : Char) (a c : List Char) :
    leastEdits (x :: a) c ≤ leastEdits (y :: a) c + 1 := by
  induction c with
  | nil =>
    rw [leastEdits_cons_nil, leastEdits_cons_nil]
    exact Nat.le_succ _
  | cons z c ih =>
    rw [leastEdits_cons_cons, leastEdits_cons_cons]
    split <;> split <;> omega

/-- What holds of two texts holds of them behind a character. -/
theorem leastEdits_cons_le (x : Char) (h : ∀ c, leastEdits a c ≤ leastEdits b c + 1) (c : List Char) :
    leastEdits (x :: a) c ≤ leastEdits (x :: b) c + 1 := by
  induction c with
  | nil =>
    have := h []
    rw [leastEdits_cons_nil, leastEdits_cons_nil]
    omega
  | cons z c ih =>
    have removed := h (z :: c)
    have replaced := h c
    rw [leastEdits_cons_cons, leastEdits_cons_cons]
    omega

/-- The same behind any text. -/
theorem leastEdits_append_le (before : List Char) (h : ∀ c, leastEdits a c ≤ leastEdits b c + 1)
    (c : List Char) : leastEdits (before ++ a) c ≤ leastEdits (before ++ b) c + 1 := by
  induction before generalizing c with
  | nil => exact h c
  | cons x before ih => exact leastEdits_cons_le x ih c

/-- One edit changes the distance to any third text by one at most. -/
theorem Edit.leastEdits_le (h : Edit a b) (c : List Char) : leastEdits a c ≤ leastEdits b c + 1 := by
  cases h with
  | insert before after x => exact leastEdits_append_le before (leastEdits_le_remove x after) c
  | remove before after x => exact leastEdits_append_le before (leastEdits_remove_le x after) c
  | replace before after x y => exact leastEdits_append_le before (leastEdits_replace_le x y after) c

/-- Fewer edits do not suffice. -/
theorem Edited.leastEdits_le (h : Edited n a b) : leastEdits a b ≤ n := by
  induction h with
  | unchanged a => exact (leastEdits_self a).le
  | step first _ ih => exact (first.leastEdits_le _).trans (Nat.succ_le_succ ih)

/-! ## The recurrence from the back -/

/-- Texts are as far apart when they are read backwards. -/
theorem leastEdits_reverse (a b : List Char) : leastEdits a.reverse b.reverse = leastEdits a b := by
  apply le_antisymm
  · exact (edited_leastEdits a b).reverse.leastEdits_le
  · have backwards := (edited_leastEdits a.reverse b.reverse).reverse
    rw [List.reverse_reverse, List.reverse_reverse] at backwards
    exact backwards.leastEdits_le

theorem leastEdits_concat_concat (x y : Char) (a b : List Char) : leastEdits (a ++ [x]) (b ++ [y]) =
    min (min (leastEdits a (b ++ [y]) + 1) (leastEdits (a ++ [x]) b + 1))
      (leastEdits a b + if x = y then 0 else 1) := by
  rw [← leastEdits_reverse (a ++ [x]) (b ++ [y]), ← leastEdits_reverse a (b ++ [y]),
    ← leastEdits_reverse (a ++ [x]) b,
    ← leastEdits_reverse a b, List.reverse_concat, List.reverse_concat, leastEdits_cons_cons]

/-! ## The table -/

/-- The distances from `a` to `before` and to what it becomes as the characters of `b` are added. -/
def row (a before : List Char) : (b : List Char) → List Nat
  | [] => [leastEdits a before]
  | y :: b => leastEdits a before :: row a (before ++ [y]) b

theorem row_eq_cons (a before b : List Char) :
    row a before b = leastEdits a before :: (row a before b).tail := by
  cases b <;> rfl

theorem getLastD_row (a before b : List Char) :
    (row a before b).getLastD 0 = leastEdits a (before ++ b) := by
  induction b generalizing before with
  | nil => rw [row, List.append_nil, List.getLastD_cons, List.getLastD_nil]
  | cons y b ih =>
    have more := ih (before ++ [y])
    rw [row_eq_cons, List.getLastD_cons, List.append_assoc, List.singleton_append] at more
    rw [row, row_eq_cons, List.getLastD_cons, List.getLastD_cons, more]

/-- From the empty text every character is an insertion. -/
theorem row_nil (before b : List Char) : row [] before b = List.range' before.length (b.length + 1) := by
  induction b generalizing before with
  | nil => rw [row, leastEdits_nil_left, List.length_nil, List.range'_one]
  | cons y b ih =>
    rw [row, leastEdits_nil_left, ih, List.length_append, List.length_singleton]
    rfl

/-- A row follows from the one before it and its first entry. -/
theorem rowAfter_row (x : Char) (a before b : List Char) :
    rowAfter x (leastEdits (a ++ [x]) before) b (row a before b) = (row (a ++ [x]) before b).tail := by
  induction b generalizing before with
  | nil => rfl
  | cons y b ih =>
    have entry := leastEdits_concat_concat x y a before
    have rest := ih (before ++ [y])
    rw [row_eq_cons] at rest
    rw [row, row_eq_cons a, rowAfter, ← entry, rest, row, List.tail_cons]
    exact (row_eq_cons ..).symm

/-- The rows are those of all that the first text begins with. -/
theorem lastRow_row (read a b : List Char) :
    lastRow b a read.length (row read [] b) = row (read ++ a) [] b := by
  induction a generalizing read with
  | nil => rw [lastRow, List.append_nil]
  | cons x a ih =>
    have first : leastEdits (read ++ [x]) [] = read.length + 1 := by
      rw [leastEdits_nil_right, List.length_append, List.length_singleton]
    have next : (read.length + 1) :: rowAfter x (read.length + 1) b (row read [] b) =
        row (read ++ [x]) [] b := by
      rw [row_eq_cons (read ++ [x]), ← rowAfter_row, first]
    have rest := ih (read ++ [x])
    rw [List.length_append, List.length_singleton, List.append_assoc, List.singleton_append] at rest
    rw [lastRow, next, rest]

/-- The distance is in the corner of the table, and it is the same where no table is needed. -/
theorem distance_eq_leastEdits (a b : List Char) : distance a b = leastEdits a b := by
  unfold distance
  split
  · next same => rw [same, leastEdits_self]
  · split
    · next empty => rw [List.isEmpty_iff.1 empty, leastEdits_nil_left]
    · split
      · next empty => rw [List.isEmpty_iff.1 empty, leastEdits_nil_right]
      · have first : List.range (b.length + 1) = row [] [] b := by rw [row_nil, List.range_eq_range']; rfl
        have last := lastRow_row [] a b
        rw [List.length_nil, List.nil_append] at last
        rw [first, last, getLastD_row, List.nil_append]

theorem edited_distance (a b : List Char) : Edited (distance a b) a b := by
  rw [distance_eq_leastEdits]
  exact edited_leastEdits a b

theorem Edited.distance_le (h : Edited n a b) : distance a b ≤ n := by
  rw [distance_eq_leastEdits]
  exact h.leastEdits_le

/-! ## A metric -/

theorem distance_eq_zero_iff : distance a b = 0 ↔ a = b := by
  rw [distance_eq_leastEdits]
  refine ⟨fun none => (none ▸ edited_leastEdits a b).eq_of_zero, ?_⟩
  rintro rfl
  exact leastEdits_self a

theorem distance_comm (a b : List Char) : distance a b = distance b a :=
  le_antisymm (edited_distance b a).symm.distance_le (edited_distance a b).symm.distance_le

theorem distance_triangle (a b c : List Char) : distance a c ≤ distance a b + distance b c :=
  ((edited_distance a b).trans (edited_distance b c)).distance_le

/-- Every character of the longer text is edited at most. -/
theorem leastEdits_le_max (a b : List Char) : leastEdits a b ≤ max a.length b.length := by
  induction a generalizing b with
  | nil => simp [leastEdits_nil_left]
  | cons x a ih =>
    cases b with
    | nil => simp [leastEdits_nil_right]
    | cons y b =>
      have := ih b
      rw [leastEdits_cons_cons, List.length_cons, List.length_cons]
      split <;> omega

theorem distance_le_max (a b : List Char) : distance a b ≤ max a.length b.length := by
  rw [distance_eq_leastEdits]
  exact leastEdits_le_max a b

/-! ## Similarity -/

/-- The similarity, free of rounding. Two empty texts are no exception, as nothing over nothing is
nothing. -/
theorem similarityIn_rat (a b : List Char) :
    similarityIn Rat a b = 1 - distance a b / (max a.length b.length : Nat) := by
  have decimal_eq (n : Nat) : (Number.Scale.decimal n 0 : Rat) = n := Rat.mkRat_one n
  unfold similarityIn Number.Scale.one
  dsimp only
  rw [decimal_eq, decimal_eq, decimal_eq]
  split
  · next empty => rw [empty, Nat.cast_zero, div_zero, sub_zero, Nat.cast_one]
  · rfl

theorem similarityIn_rat_mem (a b : List Char) :
    0 ≤ similarityIn Rat a b ∧ similarityIn Rat a b ≤ 1 := by
  have bound : (distance a b : Rat) ≤ (max a.length b.length : Nat) :=
    Nat.cast_le.2 (distance_le_max a b)
  have part : (distance a b : Rat) / (max a.length b.length : Nat) ≤ 1 :=
    div_le_one_of_le₀ bound (Nat.cast_nonneg _)
  have nonneg : (0 : Rat) ≤ distance a b / (max a.length b.length : Nat) := by positivity
  rw [similarityIn_rat]
  constructor <;> linarith

theorem similarityIn_rat_eq_one_iff : similarityIn Rat a b = 1 ↔ a = b := by
  rw [similarityIn_rat, sub_eq_self, div_eq_zero_iff, Nat.cast_eq_zero, Nat.cast_eq_zero,
    distance_eq_zero_iff]
  constructor
  · rintro (same | empty)
    · exact same
    · -- without a longest text there is only the empty one
      have := distance_le_max a b
      exact distance_eq_zero_iff.1 (by omega)
  · exact .inl

/-- The distance of two texts is the least number of edits that turn the one into the other. So it
is a metric, and the similarity, free of rounding, is a part of one that is whole for equal texts
only. -/
theorem distance_is_edit_distance (a b c : List Char) :
    IsLeast {n | Edited n a b} (distance a b) ∧
    (distance a b = distance b a ∧ (distance a b = 0 ↔ a = b) ∧
      distance a c ≤ distance a b + distance b c) ∧
    0 ≤ similarityIn Rat a b ∧ similarityIn Rat a b ≤ 1 ∧ (similarityIn Rat a b = 1 ↔ a = b) := by
  obtain ⟨nonneg, le_one⟩ := similarityIn_rat_mem a b
  exact ⟨⟨edited_distance a b, fun _ edited => edited.distance_le⟩,
    ⟨distance_comm a b, distance_eq_zero_iff, distance_triangle a b c⟩,
    nonneg, le_one, similarityIn_rat_eq_one_iff⟩

/-- Three edits lead from "kitten" to "sitting". -/
example : distance "kitten".toList "sitting".toList = 3 := by decide

end Teller.Asset
