import Teller.Proofs.Strategy.Exclusions

/-!
# What speaks for a match

A score above 0.8 speaks for a strategy. The scores for the amount, the risk and the protocols are
that high only if the reason that is then given is true. The one for the return is that high already
if less than a fifth of the wanted return is missing, and only then: the missing part is rounded
twice, but a fifth or more of a return never falls below the double `1 - 0.8`, and what is left of
one is not above 0.8 then.

    Holds                        what the reasons say
    NearlyMeets                  a return of which less than a fifth is missing
    fits_of_high, tolerated_of_high, uses_preferred_of_high
    fifth_le_deficit             the missing part of a return
    nearlyMeets_of_high          what a high score for the return means
    reasons_hold                 all reasons that are given
-/

namespace Teller.Strategy

open Listing Number

open Float.Model (UnpackedFloat Format)

variable {config : Config} {catalog : Catalog} {c : Criteria} {s : Strategy} {m : Match}
    {wanted apy : Float} {reason : String}

/-- The return is the wanted one or more, or less than a fifth of the wanted one is missing. -/
def NearlyMeets (wanted apy : Float) : Prop :=
  wanted ≤ apy ∨ wanted.isFinite = true ∧ apy.isFinite = true ∧
    exactValue wanted * (4 / 5) < exactValue apy

/-- What the reasons say of a strategy. A limit or a wanted return of zero is none. -/
inductive Holds (s : Strategy) (c : Criteria) : String → Prop
  | amount (enough : s.least ≤ c.amount) (limited : ∀ most ∈ s.limit?, c.amount ≤ most) :
      Holds s c "Amount fits strategy requirements"
  | risk (tolerated : s.risk.rank ≤ c.tolerance.rank) : Holds s c "Risk level matches your tolerance"
  | protocols (preferred : ∃ name ∈ c.preferred, ∃ used ∈ s.protocols, Text.lower used = Text.lower name)
      (excluded : ∀ name ∈ c.excluded, ∀ used ∈ s.protocols, Text.lower used ≠ Text.lower name) :
      Holds s c "Uses your preferred protocols"
  | apy {wanted : Float} (given : wanted ∈ c.leastApy) (nonzero : (wanted == 0) = false)
      (nearly : 0 < wanted → NearlyMeets wanted s.apy) : Holds s c "Expected APY meets your requirements"

/-! ## Amount, risk and protocols -/

/-- Only an amount well within the limits has a high score. -/
theorem fits_of_high (high : 0.8 < amountScore Float s c) :
    s.least ≤ c.amount ∧ ∀ most ∈ s.limit?, c.amount ≤ most := by
  unfold amountScore at high
  dsimp only at high
  split_ifs at high with below above within
  · exact absurd high (by decide)
  · exact absurd high (by decide)
  · rw [Bool.and_eq_true, decide_eq_true_iff, decide_eq_true_iff] at within
    have number : c.amount.isNaN = false := (not_isNaN_of_le within.1).2
    refine ⟨le_of_not_lt (not_isNaN_of_mul (not_isNaN_of_le within.1).1) number below,
      fun most limit => ?_⟩
    rw [limit] at above within
    have number' : most.isNaN = false := not_isNaN_of_mul (not_isNaN_of_le within.2).2
    exact le_of_not_lt number number' fun exceeds => above (decide_eq_true exceeds)
  · exact absurd high (by decide)

theorem tolerated_of_high (high : 0.8 < riskScore Float config s c) : s.risk.rank ≤ c.tolerance.rank := by
  unfold riskScore at high
  by_cases exceeds : c.tolerance.rank < s.risk.rank
  · rw [if_pos exceeds] at high
    exact absurd high (by decide)
  · exact Nat.le_of_not_lt exceeds

theorem mem_protocolSet_iff {name : String} {names : List String} :
    name ∈ protocolSet names ↔ ∃ used ∈ names, Text.lower used = name := by
  unfold protocolSet
  rw [mem_distinct, List.mem_map]

/-- Only a strategy that uses a preferred protocol, and no excluded one, has a high score for its
protocols. -/
theorem uses_preferred_of_high (high : 0.8 < protocolScore Float s c) :
    (∃ name ∈ c.preferred, ∃ used ∈ s.protocols, Text.lower used = Text.lower name) ∧
      ∀ name ∈ c.excluded, ∀ used ∈ s.protocols, Text.lower used ≠ Text.lower name := by
  unfold protocolScore at high
  dsimp only at high
  split_ifs at high with excluded none_preferred
  · exact absurd high (by decide)
  · exact absurd high (by decide)
  · constructor
    · by_contra none_used
      have unused : (protocolSet s.protocols).countP (protocolSet c.preferred).contains = 0 := by
        rw [List.countP_eq_zero]
        intro name used preferred
        obtain ⟨q, hq, rfl⟩ := mem_protocolSet_iff.1 used
        obtain ⟨p, hp, same⟩ := mem_protocolSet_iff.1 (List.contains_iff_mem.1 preferred)
        exact none_used ⟨p, hp, q, hq, same.symm⟩
      rw [unused] at high
      unfold Scale.atMost at high
      split at high
      · next above => exact not_pos_zero_div _ (lt_trans (by decide) above)
      · exact not_pos_zero_div _ (lt_trans (by decide) high)
    · intro name hname used hused same
      refine excluded (any_excluded_iff.2 ⟨Text.lower used, mem_protocolSet_iff.2 ⟨used, hused, rfl⟩, ?_⟩)
      exact mem_protocolSet_iff.2 ⟨name, hname, same.symm⟩

/-! ## The return -/

/-- Without a finite wanted return no part of it is missing. -/
theorem isNaN_infinite_deficit (infinite : wanted.toModel.unpack = .infinity .positive) :
    ((wanted - apy) / wanted).isNaN = true := by
  have difference :
      UnpackedFloat.sub Format.binary64 (.infinity .positive) apy.toModel.unpack =
        .infinity .positive ∨
      UnpackedFloat.sub Format.binary64 (.infinity .positive) apy.toModel.unpack = .notANumber := by
    cases apy.toModel.unpack with
    | notANumber => exact .inr rfl
    | zero s | finite s => exact .inl rfl
    | infinity s =>
      cases s with
      | negative => exact .inl rfl
      | positive => exact .inr rfl
  show ((wanted - apy) / wanted).toModel.unpack.isNaN = true
  rw [unpack_div, unpack_sub, infinite]
  obtain infinite | none := difference
  · rw [infinite]
    rfl
  · rw [none]
    rfl

/-- If a fifth of the wanted return or more is missing, the missing part is no less than `1 - 0.8`
in doubles. Its own rounding keeps the order; that of the difference takes off `2 ^ -53` of it at
most, which `1 - 0.8` is below a fifth. -/
theorem fifth_le_deficit (pos : 0 < wanted) (finite : wanted.isFinite = true)
    (finite' : apy.isFinite = true)
    (less : exactValue apy ≤ exactValue wanted * (4 / 5)) : 1 - 0.8 ≤ (wanted - apy) / wanted := by
  obtain ⟨w, w_pos, denotes⟩ := exists_denotes pos finite
  have fifth : IsRoundingOf (1 - 0.8) (exactValue (1 - 0.8)) := .of_isFinite (by decide +kernel)
  have missing := isRoundingOf_sub finite finite'
  rw [exactValue_eq denotes] at less missing
  have below : exactValue apy ≤ w := by linarith
  cases finite_sub : (wanted - apy).isFinite with
  | false =>
    have nonneg : 0 ≤ wanted - apy := isRoundingOf_zero.le missing (sub_nonneg.2 below)
    exact le_infinity fifth.not_isNaN
      ((grows_div pos finite).infinite _ _ (unpack_of_nonneg nonneg finite_sub))
  | true =>
    have near := abs_exactValue_sub_le finite finite' finite_sub (by rwa [exactValue_eq denotes])
    rw [exactValue_eq denotes] at near
    have constant : exactValue (1 - 0.8) ≤ (1 - 1 / 2 ^ 53) / 5 := by decide +kernel
    refine fifth.le (isRoundingOf_div finite_sub pos finite) ?_
    rw [exactValue_eq denotes, le_div_iff₀ w_pos]
    calc exactValue (1 - 0.8) * w
      _ ≤ (1 - 1 / 2 ^ 53) / 5 * w := mul_le_mul_of_nonneg_right constant w_pos.le
      _ = (1 - 1 / 2 ^ 53) * (w / 5) := by ring
      _ ≤ (1 - 1 / 2 ^ 53) * (w - exactValue apy) := mul_le_mul_of_nonneg_left (by linarith) (by norm_num)
      _ ≤ exactValue (wanted - apy) := by linarith [(abs_le.1 near).1]

/-- There is a high score only for a missing part of a finite return, where a finite one is wanted.
-/
theorem isFinite_of_high (pos : 0 < wanted) (short : ¬wanted ≤ apy)
    (high : 0.8 < Scale.one - (wanted - apy) / wanted) :
    wanted.isFinite = true ∧ apy.isFinite = true := by
  have number : ((wanted - apy) / wanted).isNaN = false := by
    by_contra none
    have none_left := isNaN_sub_of_right Scale.one (eq_true_of_ne_false none)
    rw [(not_isNaN_of_lt high).2] at none_left
    cases none_left
  have finite : wanted.isFinite = true := by
    by_contra infinite
    rw [isNaN_infinite_deficit (unpack_of_pos pos (eq_false_of_ne_true infinite))] at number
    cases number
  refine ⟨finite, ?_⟩
  by_contra infinite
  have number' : apy.isNaN = false := by
    by_contra none
    rw [isNaN_div_of_left (isNaN_sub_of_right wanted (eq_true_of_ne_false none))] at number
    cases number
  obtain ⟨s, unpack⟩ := exists_unpack_eq_infinity number' (eq_false_of_ne_true infinite)
  cases s with
  | positive => exact short (le_infinity (not_isNaN_of_lt pos).2 unpack)
  | negative =>
    -- all of the wanted return is missing, and infinitely more
    have missing := (grows_div pos finite).infinite _ _ (sub_infinite finite unpack)
    have left := sub_infinite (x := Scale.one) (by decide +kernel) missing
    exact not_lt_of_le (infinity_le (not_isNaN_of_lt high).1 left) high

/-- A score above 0.8 for a return means that less than a fifth of the wanted one is missing. -/
theorem nearlyMeets_of_high (pos : 0 < wanted) (short : ¬wanted ≤ apy)
    (high : 0.8 < Scale.one - (wanted - apy) / wanted) : NearlyMeets wanted apy := by
  obtain ⟨finite, finite'⟩ := isFinite_of_high pos short high
  refine .inr ⟨finite, finite', ?_⟩
  by_contra far
  have left : Scale.one - (wanted - apy) / wanted ≤ Scale.one - (1 - 0.8) :=
    sub_le_sub_of_le (by decide +kernel) (fifth_le_deficit pos finite finite' (not_lt.1 far))
  exact absurd (lt_of_lt_of_le high left) (by decide +kernel)

/-- Only a return that is nearly the wanted one has a high score, if a gain is wanted. -/
theorem exists_wanted_of_high (high : 0.8 < apyScore Float s c) :
    ∃ wanted ∈ c.leastApy, (wanted == 0) = false ∧ (0 < wanted → NearlyMeets wanted s.apy) := by
  unfold apyScore at high
  split at high
  · exact absurd high (by decide)
  · next wanted given =>
    obtain ⟨listed, nonzero⟩ := Option.filter_eq_some_iff.1 given
    rw [bne, Bool.not_eq_true'] at nonzero
    refine ⟨wanted, listed, nonzero, fun pos => ?_⟩
    split at high
    · next enough => exact .inl enough
    · next short =>
      dsimp only at high
      unfold Scale.greater at high
      split at high
      · exact nearlyMeets_of_high pos short high
      · exact absurd high (by decide)

/-! ## The reasons that are given -/

theorem holds_of_mem_reasons (h : reason ∈ reasons config s c) : Holds s c reason := by
  unfold reasons at h
  obtain ⟨⟨score, text⟩, listed, given⟩ := List.mem_filterMap.1 h
  dsimp only at given
  split at given
  · next high =>
    cases given
    simp only [List.mem_cons, List.not_mem_nil, or_false, Prod.mk.injEq] at listed
    obtain ⟨rfl, rfl⟩ | ⟨rfl, rfl⟩ | ⟨rfl, rfl⟩ | ⟨rfl, rfl⟩ := listed
    · obtain ⟨enough, limited⟩ := fits_of_high high
      exact .amount enough limited
    · exact .risk (tolerated_of_high high)
    · obtain ⟨preferred, excluded⟩ := uses_preferred_of_high high
      exact .protocols preferred excluded
    · obtain ⟨wanted, given, nonzero, nearly⟩ := exists_wanted_of_high high
      exact .apy given nonzero nearly
  · cases given

/-- The reasons that are given for a match hold. -/
theorem reasons_hold (h : m ∈ matching config catalog c) :
    ∀ reason ∈ m.reasons, Holds m.strategy c reason := by
  have evaluated := (mem_matched_iff.1 (mem_ranked.1 ((prefix_limited _ _).subset h))).2
  intro reason given
  rw [evaluated] at given
  exact holds_of_mem_reasons given

/-- A catalog with a loan at nine percent. -/
def ninePercent : Catalog := ⟨[loan "nine" 9]⟩

/-- A user who prefers its protocol and wants ten percent. -/
def demanding : Criteria :=
  { amount := 500, tolerance := .low, preferred := ["Silo"], leastApy := some 10 }

theorem demanding_reasons_hold : ∃ m ∈ matching {} ninePercent demanding,
    m.reasons = ["Amount fits strategy requirements", "Risk level matches your tolerance",
      "Uses your preferred protocols", "Expected APY meets your requirements"] ∧
    ∀ reason ∈ m.reasons, Holds m.strategy demanding reason := by
  have listed : ["Amount fits strategy requirements", "Risk level matches your tolerance",
      "Uses your preferred protocols", "Expected APY meets your requirements"] ∈
      (matching {} ninePercent demanding).map (·.reasons) := by decide +kernel
  obtain ⟨m, hm, same⟩ := List.mem_map.1 listed
  exact ⟨m, hm, same, reasons_hold hm⟩

/-- The return is said to meet the requirements, but it is not the wanted one. -/
theorem demanding_not_met : ∃ m ∈ matching {} ninePercent demanding,
    "Expected APY meets your requirements" ∈ m.reasons ∧ 0 < m.strategy.least ∧
    ∀ wanted ∈ demanding.leastApy, ¬wanted ≤ m.strategy.apy := by
  have found : (matching {} ninePercent demanding).map
      (fun m => (m.reasons.contains "Expected APY meets your requirements", m.strategy.least,
        m.strategy.apy)) =
      [(true, 100, 9)] := by
    decide +kernel
  obtain ⟨m, hm, same⟩ :=
    List.mem_map.1 (found ▸ List.mem_singleton_self (true, (100 : Float), (9 : Float)))
  simp only [Prod.mk.injEq] at same
  obtain ⟨reported, least, apy⟩ := same
  refine ⟨m, hm, List.contains_iff_mem.1 reported, ?_, ?_⟩
  · rw [least]
    decide +kernel
  · rintro wanted ⟨⟩
    rw [apy]
    decide +kernel

end Teller.Strategy
