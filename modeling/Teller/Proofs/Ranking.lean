import Teller.Listing
import Teller.Proofs.Number.Bounds

/-!
# Ranked lists

Elements are compared by a total order in which different elements may be equally good. Then a
ranked list has the better element before the worse one, and of two equally good elements the one
that came first. What is cut off at the end comes after all that is left. The greatest element of a
list is one that no other exceeds.

    Precedes                     when an element comes before another one
    ranked_pairwise              a ranked list is in this order
    mem_ranked                   and has the same elements
    precedes_of_cut              what is cut off comes after the rest
    take_all_iff                 when the first elements all have a property
    ranked_of_pairwise           a list that is in order is not changed
    filter_ranked                elements keep their order if others are left out before
    prefix_limited               a limit leaves the first elements
    not_exceeds_of_greatest?     no element exceeds the greatest one
    ranksBy_descending           elements ranked by a number
-/

namespace Teller.Listing

variable {α : Type} {better exceeds : α → α → Bool} {cmp : α → α → Ordering} {a b x : α}
  {xs ys : List α}

/-- `a` comes before `b` in a ranking of `xs`: it is better, or it is as good and earlier in `xs`.
-/
def Precedes (better : α → α → Bool) (xs : List α) (a b : α) : Prop :=
  better a b = true ∨ better b a = false ∧ [a, b].Sublist xs

theorem Precedes.cons (x : α) (h : Precedes better xs a b) : Precedes better (x :: xs) a b :=
  h.imp_right fun ⟨good, earlier⟩ => ⟨good, earlier.cons x⟩

theorem mem_place : a ∈ place better x xs ↔ a = x ∨ a ∈ xs := by
  rw [(place_perm better x xs).mem_iff, List.mem_cons]

theorem mem_ranked : a ∈ ranked better xs ↔ a ∈ xs := (ranked_perm better xs).mem_iff

/-- A function tells which elements are better by a total order on them. -/
def RanksBy (cmp : α → α → Ordering) (better : α → α → Bool) (xs : List α) : Prop :=
  ∀ a ∈ xs, ∀ b ∈ xs, better a b = true ↔ cmp a b = .lt

namespace RanksBy

theorem mono (h : RanksBy cmp better xs) (within : ∀ a ∈ ys, a ∈ xs) : RanksBy cmp better ys :=
  fun a ha b hb => h a (within a ha) b (within b hb)

theorem eq_false_iff (h : RanksBy cmp better xs) (ha : a ∈ xs) (hb : b ∈ xs) :
    better a b = false ↔ ¬cmp a b = .lt := by
  rw [← Bool.not_eq_true, h a ha b hb]

variable [Std.TransCmp cmp]

/-- What is not better than either of two elements in order is not better than the first one. -/
theorem not_better_trans (h : RanksBy cmp better xs) (ha : a ∈ xs) (hb : b ∈ xs) (hx : x ∈ xs)
    (hab : better a b = false) (hbx : better b x = false) : better a x = false := by
  rw [h.eq_false_iff ha hb, ← Ordering.isGE_iff_ne_lt] at hab
  rw [h.eq_false_iff hb hx, ← Ordering.isGE_iff_ne_lt] at hbx
  rw [h.eq_false_iff ha hx, ← Ordering.isGE_iff_ne_lt]
  exact Std.TransCmp.isGE_trans hab hbx

theorem not_better_of_better (h : RanksBy cmp better xs) (ha : a ∈ xs) (hb : b ∈ xs)
    (hab : better a b = true) : better b a = false := by
  rw [h.eq_false_iff hb ha, show cmp b a = (cmp a b).swap from Std.OrientedCmp.eq_swap,
    (h a ha b hb).1 hab]
  exact nofun

theorem not_better_of_precedes (h : RanksBy cmp better xs) (ha : a ∈ xs) (hb : b ∈ xs)
    (hab : Precedes better xs a b) : better b a = false :=
  hab.elim (h.not_better_of_better ha hb) And.left

end RanksBy

variable [Std.TransCmp cmp]

/-- An element is put behind the better ones, and before those that are as good: they come later. -/
theorem place_pairwise (h : RanksBy cmp better (x :: xs)) (within : ∀ a ∈ ys, a ∈ xs)
    (ordered : ys.Pairwise (Precedes better xs)) :
    (place better x ys).Pairwise (Precedes better (x :: xs)) := by
  induction ys with
  | nil => exact List.pairwise_singleton _ _
  | cons y ys ih =>
    obtain ⟨first, rest⟩ := List.pairwise_cons.1 ordered
    have listed : ∀ a ∈ y :: ys, a ∈ x :: xs := fun a ha => List.mem_cons_of_mem _ (within a ha)
    unfold place
    split
    · next better_y =>
      refine List.pairwise_cons.2 ⟨fun a ha => ?_, ih (fun a ha => within a (.tail _ ha)) rest⟩
      rcases mem_place.1 ha with rfl | ha
      · exact .inl better_y
      · exact (first a ha).cons x
    · next worse =>
      replace worse := eq_false_of_ne_true worse
      refine List.pairwise_cons.2 ⟨fun a ha => .inr ⟨?_, ?_⟩, ordered.imp (Precedes.cons x)⟩
      · rcases List.mem_cons.1 ha with rfl | ha'
        · exact worse
        · have after : better a y = false :=
            (h.mono fun _ => .tail _).not_better_of_precedes (within y List.mem_cons_self) (within a ha)
              (first a ha')
          exact h.not_better_trans (listed a ha) (listed y List.mem_cons_self) List.mem_cons_self after
            worse
      · exact (List.singleton_sublist.2 (within a ha)).cons_cons x

/-- A ranked list is in order: the better element first, and equally good ones as they came. -/
theorem ranked_pairwise (h : RanksBy cmp better xs) :
    (ranked better xs).Pairwise (Precedes better xs) := by
  induction xs with
  | nil => exact .nil
  | cons x xs ih =>
    exact place_pairwise h (fun a => mem_ranked.1) (ih (h.mono fun _ => .tail _))

/-- An element that is cut off a ranked list comes after all that are left, and as many are left as
may be. -/
theorem precedes_of_cut {n : Nat} (h : RanksBy cmp better xs) (ha : a ∈ xs)
    (cut : a ∉ (ranked better xs).take n) :
    ((ranked better xs).take n).length = n ∧ ∀ b ∈ (ranked better xs).take n, Precedes better xs b a := by
  have rest : a ∈ (ranked better xs).drop n := by
    have mem : a ∈ (ranked better xs).take n ++ (ranked better xs).drop n := by
      rw [List.take_append_drop]
      exact mem_ranked.2 ha
    exact (List.mem_append.1 mem).resolve_left cut
  have ordered := ranked_pairwise h
  rw [← List.take_append_drop n (ranked better xs)] at ordered
  refine ⟨?_, fun b hb => (List.pairwise_append.1 ordered).2.2 b hb a rest⟩
  have some_left := List.length_pos_of_mem rest
  rw [List.length_drop] at some_left
  rw [List.length_take]
  omega

/-- Where what comes before an element has a property if the element has it, the first `n` elements
are there and all have it exactly if `n` elements have it. -/
theorem take_all_iff {n : Nat} {p : α → Bool} (down : xs.Pairwise fun a b => p b = true → p a = true) :
    (xs.take n).length = n ∧ (∀ a ∈ xs.take n, p a = true) ↔ n ≤ xs.countP p := by
  induction xs generalizing n with
  | nil => simpa using eq_comm
  | cons x xs ih =>
    obtain ⟨first, rest⟩ := List.pairwise_cons.1 down
    cases n with
    | zero => simp
    | succ n =>
      rw [List.take_succ_cons, List.length_cons, List.forall_mem_cons, Nat.add_right_cancel_iff,
        and_left_comm]
      cases holds : p x with
      | true => rw [ih rest, List.countP_cons_of_pos holds, Nat.add_le_add_iff_right, and_iff_right rfl]
      | false =>
        have nowhere : (x :: xs).countP p = 0 := by
          refine List.countP_eq_zero.2 (List.forall_mem_cons.2 ⟨ne_true_of_eq_false holds,
            fun b hb later => ?_⟩)
          exact ne_true_of_eq_false holds (first b hb later)
        rw [nowhere]
        exact iff_of_false (fun h => nomatch h.1) (Nat.not_succ_le_zero n)

/-! ## Leaving elements out -/

theorem place_of_not_better (none_better : ∀ a ∈ xs, better a x = false) :
    place better x xs = x :: xs := by
  cases xs with
  | nil => rfl
  | cons y ys =>
    unfold place
    rw [none_better y List.mem_cons_self, if_neg Bool.false_ne_true]

/-- A list that is in order is not changed. -/
theorem ranked_of_pairwise (ordered : xs.Pairwise fun a b => better b a = false) :
    ranked better xs = xs := by
  induction xs with
  | nil => rfl
  | cons x xs ih =>
    obtain ⟨first, rest⟩ := List.pairwise_cons.1 ordered
    show place better x (ranked better xs) = x :: xs
    rw [ih rest]
    exact place_of_not_better first

theorem filter_place_of_not {p : α → Bool} (left_out : p x = false) :
    (place better x xs).filter p = xs.filter p := by
  induction xs with
  | nil => exact List.filter_cons_of_neg (Bool.not_eq_true _ ▸ left_out)
  | cons y ys ih =>
    unfold place
    split
    · rw [List.filter_cons, List.filter_cons, ih]
    · exact List.filter_cons_of_neg (Bool.not_eq_true _ ▸ left_out)

/-- An element finds its place among those that are left as it does among all. -/
theorem filter_place {p : α → Bool} (h : RanksBy cmp better (x :: ys)) (within : ∀ a ∈ xs, a ∈ ys)
    (ordered : xs.Pairwise fun a b => better b a = false) (left : p x = true) :
    (place better x xs).filter p = place better x (xs.filter p) := by
  induction xs with
  | nil => exact List.filter_cons_of_pos left
  | cons y xs ih =>
    obtain ⟨first, rest⟩ := List.pairwise_cons.1 ordered
    have placed := ih (fun a ha => within a (.tail _ ha)) rest
    have listed : ∀ a ∈ y :: xs, a ∈ x :: ys := fun a ha => .tail _ (within a ha)
    cases better_y : better y x with
    | true =>
      rw [show place better x (y :: xs) = y :: place better x xs from if_pos better_y, List.filter_cons,
        List.filter_cons, placed]
      split
      · exact (if_pos better_y).symm
      · rfl
    | false =>
      -- what comes after `y` is not better than `x` either
      have none_better : ∀ a ∈ (y :: xs).filter p, better a x = false := by
        intro a ha
        rcases List.mem_cons.1 (List.mem_filter.1 ha).1 with rfl | ha
        · exact better_y
        · exact h.not_better_trans (listed a (.tail _ ha))
            (listed y List.mem_cons_self) List.mem_cons_self (first a ha)
            better_y
      rw [place_of_not_better none_better,
        show place better x (y :: xs) = x :: y :: xs from if_neg (Bool.not_eq_true _ ▸ better_y)]
      exact List.filter_cons_of_pos left

/-- Elements keep their order if others are left out before the list is ranked. -/
theorem filter_ranked (h : RanksBy cmp better xs) (p : α → Bool) :
    (ranked better xs).filter p = ranked better (xs.filter p) := by
  induction xs with
  | nil => rfl
  | cons x xs ih =>
    have rest := h.mono fun a => List.mem_cons_of_mem x
    have ordered : (ranked better xs).Pairwise fun a b => better b a = false :=
      (ranked_pairwise rest).imp_of_mem fun ha hb =>
        rest.not_better_of_precedes (mem_ranked.1 ha) (mem_ranked.1 hb)
    show (place better x (ranked better xs)).filter p = _
    cases left : p x with
    | true =>
      rw [filter_place h (fun a => mem_ranked.1) ordered left, ih rest, List.filter_cons_of_pos left]
      rfl
    | false => rw [filter_place_of_not left, ih rest, List.filter_cons_of_neg (Bool.not_eq_true _ ▸ left)]

/-- A limit leaves the first elements. -/
theorem prefix_limited (limit : Int) (xs : List α) : limited limit xs <+: xs := by
  unfold limited
  split <;> exact List.take_prefix ..

/-- No element exceeds the greatest one. -/
theorem not_exceeds_of_greatest? (h : RanksBy cmp exceeds xs) (found : greatest? exceeds xs = some a) :
    ∀ b ∈ xs, exceeds b a = false := by
  cases xs with
  | nil => cases found
  | cons x xs =>
    cases found
    induction xs generalizing x with
    | nil =>
      intro b hb
      rw [List.mem_singleton.1 hb, List.foldl_nil,
        h.eq_false_iff List.mem_cons_self List.mem_cons_self,
          show cmp x x = .eq from Std.ReflCmp.compare_self]
      exact nofun
    | cons y ys ih =>
      have one : x ∈ x :: y :: ys := List.mem_cons_self
      have other : y ∈ x :: y :: ys := List.mem_cons_of_mem _ List.mem_cons_self
      rw [List.foldl_cons]
      -- the one that is kept exceeds the one that is passed over, or is not exceeded by it
      split
      · next exceeded =>
        have rest := ih y (h.mono fun _ => .tail _)
        have left := List.mem_cons_of_mem x
          (mem_of_greatest? (show greatest? exceeds (y :: ys) = some _ from rfl))
        intro b hb
        rcases List.mem_cons.1 hb with rfl | hb
        · exact h.not_better_trans one other left (h.not_better_of_better other one exceeded)
            (rest y List.mem_cons_self)
        · exact rest b hb
      · next kept =>
        replace kept := eq_false_of_ne_true kept
        have within : ∀ b ∈ x :: ys, b ∈ x :: y :: ys :=
          fun b hb => (List.mem_cons.1 hb).elim (· ▸ one) fun hb => .tail _ (.tail _ hb)
        have rest := ih x (h.mono within)
        have left := within _ (mem_of_greatest? (show greatest? exceeds (x :: ys) = some _ from rfl))
        intro b hb
        rcases List.mem_cons.1 hb with rfl | hb
        · exact rest b List.mem_cons_self
        · rcases List.mem_cons.1 hb with rfl | hb
          · exact h.not_better_trans other one left kept (rest x List.mem_cons_self)
          · exact rest b (.tail _ hb)

/-! ## Ranking by a number -/

section Numbers

open Number

variable {f : α → Float}

/-- Elements in the order of a number of theirs, the greatest first. -/
def descending (f : α → Float) (a b : α) : Ordering := order (f b) (f a)

instance : Std.TransCmp (descending f) where
  eq_swap := (order_swap ..).symm
  isLE_trans h h' := order_trans h' h

theorem ranksBy_descending (numbers : ∀ a ∈ xs, (f a).isNaN = false) :
    RanksBy (descending f) (fun a b => f b < f a) xs := by
  intro a ha b hb
  rw [decide_eq_true_iff]
  exact lt_iff (numbers b hb) (numbers a ha)

/-- What comes first in a ranking by a number has no smaller one, and with the same number it came
first before. -/
theorem Precedes.of_descending (numbers : ∀ a ∈ xs, (f a).isNaN = false) (ha : a ∈ xs) (hb : b ∈ xs)
    (h : Precedes (fun a b => f b < f a) xs a b) : f b ≤ f a ∧ (f a ≤ f b → [a, b].Sublist xs) := by
  rcases h with less | ⟨not_less, earlier⟩
  · have less := of_decide_eq_true less
    exact ⟨le_of_lt less, fun le => absurd less (not_lt_of_le le)⟩
  · exact ⟨le_of_not_lt (numbers b hb) (numbers a ha) (of_decide_eq_false not_less), fun _ => earlier⟩

end Numbers

end Teller.Listing
