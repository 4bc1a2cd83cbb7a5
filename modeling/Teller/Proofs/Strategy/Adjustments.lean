import Teller.Proofs.Ranking
import Teller.Strategy.Matching

/-!
# Following the recommended adjustments

An adjustment of the amount suggests a limit of the strategy, and one of the duration what the
strategy needs. A user who takes both suggestions gets no further advice on either: the limits of a
strategy do not exclude one another, so the least amount is not too much and the greatest is not too
little. A lower risk is suggested only to those who do not tolerate the strategy's own, and only if
the catalog has it in the same category.

    Criteria.following           criteria of a user who takes the suggestions
    mem_adjustments_iff          where an adjustment comes from
    amountAdjustment?_following  no further advice on the amount
    durationAdjustment?_following  nor on the duration
    adjustments_work             the recommended adjustments work
-/

namespace Teller.Strategy

open Listing Number

variable {catalog : Catalog} {s : Strategy} {c : Criteria} {a : Adjustment}

namespace Adjustment

def amount? : Adjustment → Option Float
  | raiseAmount _ least => some least
  | lowerAmount _ most => some most
  | lowerRisk .. | lengthen .. => none

def duration? : Adjustment → Option Int
  | lengthen _ needed => some needed
  | raiseAmount .. | lowerAmount .. | lowerRisk .. => none

end Adjustment

/-- The criteria of a user who takes the suggested amount and the suggested duration, if there are
any. -/
def Criteria.following (c : Criteria) (advice : List Adjustment) : Criteria :=
  { c with
    amount := (advice.findSome? Adjustment.amount?).getD c.amount
    maxDuration := (advice.findSome? Adjustment.duration?).or c.maxDuration }

/-- Advice on a strategy that settles what it is about. -/
structure Works (catalog : Catalog) (s : Strategy) (c : Criteria) (advice : List Adjustment) : Prop where
  distinct : (advice.map (·.subject)).Nodup
  ordered : advice.Pairwise fun a b => b.impact ≤ a.impact
  settles : ∀ a ∈ adjustments catalog s (c.following advice), a.subject ≠ "amount" ∧
    a.subject ≠ "duration"
  tolerated : ∀ a ∈ advice, a.subject = "protocol" → c.tolerance.rank < s.risk.rank ∧
    ∃ other ∈ catalog.strategies, other.category = s.category ∧ other.risk.rank ≤ c.tolerance.rank ∧
      a = .lowerRisk s.risk other.risk

/-! ## Single adjustments -/

theorem amountAdjustment?_eq_none_iff : amountAdjustment? s c = none ↔
    ¬c.amount < s.least ∧ ∀ most ∈ s.limit?, ¬most < c.amount := by
  unfold amountAdjustment?
  split
  · next below => exact ⟨nofun, fun h => absurd below h.1⟩
  · next enough =>
    rw [Option.map_eq_none_iff, Option.filter_eq_none_iff]
    simp only [decide_eq_true_eq]
    exact (and_iff_right enough).symm

theorem amountAdjustment?_eq_some_iff : amountAdjustment? s c = some a ↔
    c.amount < s.least ∧ a = .raiseAmount c.amount s.least ∨
    ¬c.amount < s.least ∧ ∃ most ∈ s.limit?, most < c.amount ∧ a = .lowerAmount c.amount most := by
  unfold amountAdjustment?
  split
  · next below =>
    rw [Option.some_inj, eq_comm, and_iff_right below]
    exact ⟨.inl, fun h => h.resolve_right fun h => h.1 below⟩
  · next enough =>
    rw [Option.map_eq_some_iff]
    simp only [Option.filter_eq_some_iff, decide_eq_true_eq]
    constructor
    · rintro ⟨most, ⟨limit, above⟩, rfl⟩
      exact .inr ⟨enough, most, limit, above, rfl⟩
    · rintro (⟨below, -⟩ | ⟨-, most, limit, above, rfl⟩)
      · exact absurd below enough
      · exact ⟨most, ⟨limit, above⟩, rfl⟩

theorem riskAdjustment?_eq_some_iff : riskAdjustment? catalog s c = some a ↔
    c.tolerance.rank < s.risk.rank ∧
      ∃ level, lowerRisk? catalog s c.tolerance = some level ∧ .lowerRisk s.risk level = a := by
  unfold riskAdjustment?
  split
  · next exceeds => rw [Option.map_eq_some_iff, and_iff_right exceeds]
  · next tolerated => exact ⟨nofun, fun h => absurd h.1 tolerated⟩

/-- A lower risk that is suggested is that of a tolerated strategy of the same category. -/
theorem exists_of_lowerRisk? {tolerance level : Risk.Level}
    (found : lowerRisk? catalog s tolerance = some level) :
    ∃ other ∈ catalog.strategies, other.category = s.category ∧ other.risk.rank ≤ tolerance.rank ∧
      other.risk = level := by
  obtain ⟨other, first, rfl⟩ := Option.map_eq_some_iff.1 found
  have fits := List.find?_some first
  rw [Bool.and_eq_true, beq_iff_eq, decide_eq_true_iff] at fits
  exact ⟨other, List.mem_of_find?_eq_some first, fits.1, fits.2, rfl⟩

theorem durationAdjustment?_eq_some_iff : durationAdjustment? s c = some a ↔
    ∃ most needed, c.maxDuration.filter (· ≠ 0) = some most ∧ s.duration.filter (· ≠ 0) = some needed ∧
      most < needed ∧ a = .lengthen most needed := by
  unfold durationAdjustment?
  split
  · next most needed limited needs =>
    rw [limited, needs]
    split
    · next short =>
      constructor
      · rintro ⟨⟩
        exact ⟨most, needed, rfl, rfl, short, rfl⟩
      · rintro ⟨_, _, ⟨⟩, ⟨⟩, -, rfl⟩
        rfl
    · next long =>
      refine ⟨nofun, ?_⟩
      rintro ⟨_, _, ⟨⟩, ⟨⟩, short, -⟩
      exact absurd short long
  · next none_needed =>
    refine ⟨nofun, ?_⟩
    rintro ⟨most, needed, limited, needs, -⟩
    exact absurd needs (none_needed most needed limited)

theorem subject_of_amountAdjustment? (h : amountAdjustment? s c = some a) : a.subject = "amount" := by
  obtain ⟨-, rfl⟩ | ⟨-, _, -, -, rfl⟩ := amountAdjustment?_eq_some_iff.1 h <;> rfl

theorem subject_of_riskAdjustment? (h : riskAdjustment? catalog s c = some a) :
    a.subject = "protocol" := by
  obtain ⟨-, _, -, rfl⟩ := riskAdjustment?_eq_some_iff.1 h
  rfl

theorem subject_of_durationAdjustment? (h : durationAdjustment? s c = some a) :
    a.subject = "duration" := by
  obtain ⟨_, _, -, -, -, rfl⟩ := durationAdjustment?_eq_some_iff.1 h
  rfl

/-! ## The list of adjustments -/

/-- An adjustment is one of the amount, of the risk or of the duration. -/
theorem mem_adjustments_iff : a ∈ adjustments catalog s c ↔
    amountAdjustment? s c = some a ∨ riskAdjustment? catalog s c = some a ∨
    durationAdjustment? s c = some a := by
  unfold adjustments
  rw [mem_ranked, List.mem_filterMap]
  simp only [List.mem_cons, List.not_mem_nil, or_false, exists_eq_or_imp, exists_eq_left]

theorem nodup_subjects (catalog : Catalog) (s : Strategy) (c : Criteria) :
    ((adjustments catalog s c).map (·.subject)).Nodup := by
  unfold adjustments
  rw [((ranked_perm _ _).map _).nodup_iff]
  refine List.pairwise_map.2 (List.pairwise_filterMap.2 ?_)
  have amount_risk : ∀ a, amountAdjustment? s c = some a → ∀ b, riskAdjustment? catalog s c = some b →
      a.subject ≠ b.subject := by
    intro a ha b hb
    rw [subject_of_amountAdjustment? ha, subject_of_riskAdjustment? hb]
    decide
  have amount_duration : ∀ a, amountAdjustment? s c = some a → ∀ b, durationAdjustment? s c = some b →
      a.subject ≠ b.subject := by
    intro a ha b hb
    rw [subject_of_amountAdjustment? ha, subject_of_durationAdjustment? hb]
    decide
  have risk_duration : ∀ a, riskAdjustment? catalog s c = some a → ∀ b, durationAdjustment? s c = some b →
      a.subject ≠ b.subject := by
    intro a ha b hb
    rw [subject_of_riskAdjustment? ha, subject_of_durationAdjustment? hb]
    decide
  simp only [List.pairwise_cons, List.mem_cons, List.not_mem_nil, or_false, forall_eq_or_imp, forall_eq]
  exact ⟨⟨amount_risk, amount_duration⟩, risk_duration, nofun, .nil⟩

theorem impact_not_isNaN (a : Adjustment) : a.impact.isNaN = false := by
  cases a with
  | raiseAmount => exact (by decide : (0.8 : Float).isNaN = false)
  | lowerAmount => exact (by decide : (0.6 : Float).isNaN = false)
  | lowerRisk => exact (by decide : (0.9 : Float).isNaN = false)
  | lengthen => exact (by decide : (0.4 : Float).isNaN = false)

theorem adjustments_ordered (catalog : Catalog) (s : Strategy) (c : Criteria) :
    (adjustments catalog s c).Pairwise fun a b => b.impact ≤ a.impact := by
  have numbers : ∀ a ∈ [amountAdjustment? s c, riskAdjustment? catalog s c,
      durationAdjustment? s c].filterMap fun a => a, a.impact.isNaN = false :=
    fun a _ => impact_not_isNaN a
  exact (ranked_pairwise (ranksBy_descending numbers)).imp_of_mem fun ha hb earlier =>
    (earlier.of_descending numbers (mem_ranked.1 ha) (mem_ranked.1 hb)).1

/-! ## Following the advice -/

/-- What a list suggests is what the only element with a suggestion suggests. -/
theorem findSome?_eq_bind {α β : Type} {f : α → Option β} {xs : List α} {o : Option α}
    (only : ∀ a ∈ xs, ∀ b, f a = some b → o = some a) (listed : ∀ a, o = some a → a ∈ xs) :
    xs.findSome? f = o.bind f := by
  cases found : xs.findSome? f with
  | none =>
    cases o with
    | none => rfl
    | some a => exact (List.findSome?_eq_none_iff.1 found a (listed a rfl)).symm
  | some b =>
    obtain ⟨a, ha, suggests⟩ := List.exists_of_findSome?_eq_some found
    rw [only a ha b suggests]
    exact suggests.symm

/-- Only the adjustment of the amount suggests an amount. -/
theorem findSome?_amount? (catalog : Catalog) (s : Strategy) (c : Criteria) :
    (adjustments catalog s c).findSome? Adjustment.amount? =
    (amountAdjustment? s c).bind Adjustment.amount? := by
  refine findSome?_eq_bind (fun a ha amount suggests => ?_) fun a h => mem_adjustments_iff.2 (.inl h)
  rcases mem_adjustments_iff.1 ha with h | h | h
  · exact h
  · obtain ⟨-, _, -, rfl⟩ := riskAdjustment?_eq_some_iff.1 h
    cases suggests
  · obtain ⟨_, _, -, -, -, rfl⟩ := durationAdjustment?_eq_some_iff.1 h
    cases suggests

/-- Only the adjustment of the duration suggests a duration. -/
theorem findSome?_duration? (catalog : Catalog) (s : Strategy) (c : Criteria) :
    (adjustments catalog s c).findSome? Adjustment.duration? =
    (durationAdjustment? s c).bind Adjustment.duration? := by
  refine findSome?_eq_bind (fun a ha duration suggests => ?_) fun a h =>
    mem_adjustments_iff.2 (.inr (.inr h))
  rcases mem_adjustments_iff.1 ha with h | h | h
  · obtain ⟨-, rfl⟩ | ⟨-, _, -, -, rfl⟩ := amountAdjustment?_eq_some_iff.1 h <;> cases suggests
  · obtain ⟨-, _, -, rfl⟩ := riskAdjustment?_eq_some_iff.1 h
    cases suggests
  · exact h

/-- Who has the suggested amount gets no further advice on it. -/
theorem amountAdjustment?_following (limits : ∀ most ∈ s.most, 0 < most ∧ s.least ≤ most) :
    amountAdjustment? s (c.following (adjustments catalog s c)) = none := by
  have within : ∀ most ∈ s.limit?, s.least ≤ most := fun most limit =>
    (limits most (Option.filter_eq_some_iff.1 limit).1).2
  rw [amountAdjustment?_eq_none_iff, show (c.following (adjustments catalog s c)).amount =
    ((amountAdjustment? s c).bind Adjustment.amount?).getD c.amount
      by rw [← findSome?_amount? catalog]; rfl]
  cases advised : amountAdjustment? s c with
  | none => exact amountAdjustment?_eq_none_iff.1 advised
  | some a =>
    -- the two limits do not exclude one another
    obtain ⟨below, rfl⟩ | ⟨-, most, limit, above, rfl⟩ := amountAdjustment?_eq_some_iff.1 advised
    · exact ⟨not_lt_of_le (le_self (not_isNaN_of_lt below).2),
        fun most limit => not_lt_of_le (within most limit)⟩
    · refine ⟨not_lt_of_le (within most limit), fun other limit' => ?_⟩
      rw [Option.mem_unique limit' limit]
      exact not_lt_of_le (le_self (not_isNaN_of_lt above).1)

/-- Who has the suggested duration gets no further advice on it. -/
theorem durationAdjustment?_following (catalog : Catalog) (s : Strategy) (c : Criteria) :
    durationAdjustment? s (c.following (adjustments catalog s c)) = none := by
  have limited : (c.following (adjustments catalog s c)).maxDuration =
      ((durationAdjustment? s c).bind Adjustment.duration?).or c.maxDuration := by
    rw [← findSome?_duration? catalog]
    rfl
  rw [Option.eq_none_iff_forall_ne_some]
  intro a again
  obtain ⟨most, needed, limited', needs, short, -⟩ := durationAdjustment?_eq_some_iff.1 again
  rw [limited] at limited'
  cases advised : durationAdjustment? s c with
  | none =>
    rw [advised] at limited'
    have first := durationAdjustment?_eq_some_iff.2 ⟨most, needed, limited', needs, short, rfl⟩
    rw [advised] at first
    cases first
  | some b =>
    obtain ⟨_, needed', -, needs', -, rfl⟩ := durationAdjustment?_eq_some_iff.1 advised
    rw [advised] at limited'
    have same : needed' = most := Option.some_inj.1 (Option.filter_eq_some_iff.1 limited').1
    rw [← same, Option.mem_unique needs needs'] at short
    exact Int.lt_irrefl _ short

/-- The recommended adjustments are about different things, the one that matters most first. Who
follows those of the amount and the duration gets no further ones of these, and a lower risk is
suggested only where it is needed and to be had. -/
theorem adjustments_work (catalog : Catalog) (c : Criteria)
    (limits : ∀ most ∈ s.most, 0 < most ∧ s.least ≤ most) :
    Works catalog s c (adjustments catalog s c) where
  distinct := nodup_subjects catalog s c
  ordered := adjustments_ordered catalog s c
  settles a ha := by
    rcases mem_adjustments_iff.1 ha with h | h | h
    · rw [amountAdjustment?_following limits] at h
      cases h
    · rw [subject_of_riskAdjustment? h]
      decide
    · rw [durationAdjustment?_following] at h
      cases h
  tolerated a ha about := by
    rcases mem_adjustments_iff.1 ha with h | h | h
    · rw [subject_of_amountAdjustment? h] at about
      exact absurd about (by decide)
    · obtain ⟨exceeds, level, found, rfl⟩ := riskAdjustment?_eq_some_iff.1 h
      obtain ⟨other, listed, category, tolerated, rfl⟩ := exists_of_lowerRisk? found
      exact ⟨exceeds, other, listed, category, tolerated, rfl⟩
    · rw [subject_of_durationAdjustment? h] at about
      exact absurd about (by decide)

/-- A loan for three months at a high risk. -/
def longLoan : Strategy where
  id := "long"
  name := "Long loan"
  description := "A loan for three months"
  category := .lending
  risk := .high
  apy := 9
  least := 1000
  most := some 5000
  duration := some 90
  protocols := ["silo"]
  steps := []

/-- A catalog that also has a loan at a low risk. -/
def twoLoans : Catalog := ⟨[longLoan, { longLoan with id := "short", risk := .low, duration := none }]⟩

/-- A user with little money, little time and a low tolerance. -/
def cautious : Criteria := { amount := 100, tolerance := .low, maxDuration := some 30 }

theorem cautious_advised : (∀ most ∈ longLoan.most, 0 < most ∧ longLoan.least ≤ most) ∧
    adjustments twoLoans longLoan cautious = [.lowerRisk .high .low, .raiseAmount 100 1000,
      .lengthen 30 90] ∧
    Works twoLoans longLoan cautious (adjustments twoLoans longLoan cautious) := by
  have limits : ∀ most ∈ longLoan.most, 0 < most ∧ longLoan.least ≤ most := by
    rintro most ⟨⟩
    decide +kernel
  exact ⟨limits, by decide +kernel, adjustments_work twoLoans cautious limits⟩

end Teller.Strategy
