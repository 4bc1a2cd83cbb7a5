/-!
# Ranked and limited lists

What the desk does with every list of results: rank it, cut it to a limit, drop repetitions, and
find its first greatest or most frequent element.

    limited_sublist        a limit only leaves elements off at the end
    ranked_perm            ranking only changes the order
    mem_distinct           dropping repetitions keeps every element once
    distinct_append        the elements of a longer list, each where it occurs first
    distinct_ordered       they keep the order of their first occurrences
    mem_of_greatest?       the greatest element is one of the list
-/

namespace Teller.Listing

/-- At most `limit` elements from the front. A negative limit leaves that many off at the end. -/
def limited (limit : Int) (xs : List α) : List α :=
  if 0 ≤ limit then xs.take limit.toNat else xs.take (xs.length - limit.natAbs)

/-- At most `limit` elements, or all if there is no limit. -/
def limited? (limit : Option Int) (xs : List α) : List α :=
  match limit with
  | some n => limited n xs
  | none => xs

/-- Puts an element into a ranked list, behind the elements that are better. -/
def place (better : α → α → Bool) (x : α) : List α → List α
  | [] => [x]
  | y :: ys => if better y x then y :: place better x ys else x :: y :: ys

/-- Ranked so that no element precedes a better one; equally good elements keep their order. -/
def ranked (better : α → α → Bool) (xs : List α) : List α := xs.foldr (place better) []

/-- The elements without repetitions, each where it occurs first. -/
def distinct [BEq α] : List α → List α
  | [] => []
  | x :: xs => x :: (distinct xs).filter (· != x)

/-- The first element that no other exceeds. -/
def greatest? (exceeds : α → α → Bool) : List α → Option α
  | [] => none
  | x :: xs => some (xs.foldl (fun best y => if exceeds y best then y else best) x)

/-- The element that occurs most often, the earlier one of two that occur equally often. -/
def mostFrequent? [BEq α] (xs : List α) : Option α :=
  greatest? (fun a b => xs.count b < xs.count a) (distinct xs)

/-! ## Lemmas -/

theorem limited_sublist (limit : Int) (xs : List α) : (limited limit xs).Sublist xs := by
  unfold limited
  split <;> exact List.take_sublist ..

theorem place_perm (better : α → α → Bool) (x : α) (xs : List α) :
    (place better x xs).Perm (x :: xs) := by
  induction xs with
  | nil => exact .refl _
  | cons y ys ih =>
    unfold place
    split
    · exact (ih.cons y).trans (.swap ..)
    · exact .refl _

theorem ranked_perm (better : α → α → Bool) (xs : List α) : (ranked better xs).Perm xs := by
  induction xs with
  | nil => exact .refl _
  | cons x xs ih => exact (place_perm better x _).trans (ih.cons x)

theorem mem_distinct [BEq α] [LawfulBEq α] {a : α} {xs : List α} : a ∈ distinct xs ↔ a ∈ xs := by
  induction xs with
  | nil => simp [distinct]
  | cons x xs ih =>
    simp only [distinct, List.mem_cons, List.mem_filter, ih]
    by_cases h : a = x <;> simp [h]

theorem nodup_distinct [BEq α] [LawfulBEq α] (xs : List α) : (distinct xs).Nodup := by
  induction xs with
  | nil => simp [distinct]
  | cons x xs ih =>
    simp only [distinct, List.nodup_cons, List.mem_filter]
    exact ⟨by simp, List.Pairwise.filter _ ih⟩

/-- A longer list adds the elements that did not occur before. -/
theorem distinct_append [BEq α] [LawfulBEq α] (xs ys : List α) :
    distinct (xs ++ ys) = distinct xs ++ (distinct ys).filter (· ∉ distinct xs) := by
  induction xs with
  | nil => exact (List.filter_eq_self.2 fun y _ => by simp [distinct]).symm
  | cons x xs ih =>
    have later : ((distinct ys).filter (· ∉ distinct xs)).filter (· != x) =
        (distinct ys).filter (· ∉ x :: (distinct xs).filter (· != x)) := by
      rw [List.filter_filter]
      refine List.filter_congr fun y _ => ?_
      by_cases same : y = x <;> simp [same]
    rw [List.cons_append, distinct, ih, distinct, List.filter_append, later, List.cons_append]

/-- Elements keep the order in which they occur first. -/
theorem distinct_ordered [BEq α] [LawfulBEq α] (xs : List α) :
    (distinct xs).Pairwise fun a b => xs.idxOf a < xs.idxOf b := by
  induction xs with
  | nil => exact .nil
  | cons x xs ih =>
    rw [distinct, List.pairwise_cons]
    have other {a : α} (h : a ∈ (distinct xs).filter (· != x)) : (x :: xs).idxOf a = xs.idxOf a + 1 := by
      have ne : a ≠ x := by simpa using (List.mem_filter.1 h).2
      rw [List.idxOf_cons, beq_false_of_ne ne.symm, cond_false]
    constructor
    · intro a ha
      rw [other ha, List.idxOf_cons_self]
      exact Nat.succ_pos _
    · refine (ih.sublist List.filter_sublist).imp_of_mem fun ha hb earlier => ?_
      rw [other ha, other hb]
      exact Nat.succ_lt_succ earlier

theorem mem_of_greatest? {exceeds : α → α → Bool} {a : α} {xs : List α}
    (h : greatest? exceeds xs = some a) : a ∈ xs := by
  have kept (ys : List α) (best : α) :
      ys.foldl (fun best y => if exceeds y best then y else best) best ∈ best :: ys := by
    induction ys generalizing best with
    | nil => exact List.mem_cons_self
    | cons y ys ih =>
      rw [List.foldl_cons]
      split
      · exact List.mem_cons_of_mem _ (ih y)
      · rcases List.mem_cons.1 (ih best) with same | later
        · rw [same]
          exact List.mem_cons_self
        · exact List.mem_cons_of_mem _ (List.mem_cons_of_mem _ later)
  cases xs with
  | nil => cases h
  | cons x xs =>
    cases h
    exact kept xs x

end Teller.Listing
