import Teller.Proofs.Number.Monotone
import Teller.Proofs.Strategy.Matches

/-!
# Excluding more protocols

Criteria that exclude more protocols than others give no marks for protocols to the strategies that
use one of these, and change nothing else. The scores of all other strategies stay as they are, and
so does their order among the results. A strategy that uses one has no higher score than before,
since sums and products grow with their parts in doubles too.

    UsesExcluded                 a strategy that uses a newly excluded protocol
    Demotes                      what a change of criteria does to the results
    evaluate_excluding           strategies that are rated as before
    score_excluding_le           strategies that are not rated higher
    filter_matching              the results among some strategies are the first of their own ranking
    exclusions_demote            excluding more protocols
-/

namespace Teller.Strategy

open Listing Number

variable {config : Config} {catalog : Catalog} {c d : Criteria} {s : Strategy} {names : List String}
    {name : String}

/-- The same criteria with other protocols excluded. -/
def Criteria.excluding (c : Criteria) (names : List String) : Criteria := { c with excluded := names }

/-- The strategy uses a protocol, in upper or lower case, that `d` excludes and `c` does not. -/
def UsesExcluded (c d : Criteria) (s : Strategy) : Prop :=
  ∃ name ∈ protocolSet s.protocols, name ∈ protocolSet d.excluded ∧ name ∉ protocolSet c.excluded

instance (c d : Criteria) (s : Strategy) : Decidable (UsesExcluded c d s) :=
  inferInstanceAs (Decidable (∃ name ∈ protocolSet s.protocols, _))

/-- The results for the strategies that use no newly excluded protocol. -/
def untouched (c d : Criteria) (ms : List Match) : List Match :=
  ms.filter fun m => !decide (UsesExcluded c d m.strategy)

/-- The limit leaves no strategy out. -/
def IsWithinLimit (config : Config) (catalog : Catalog) (c : Criteria) : Prop :=
  ∀ s, Qualifies config catalog c s → s ∈ (matching config catalog c).map (·.strategy)

/-- Newly excluded protocols lower the strategies that use them, and do nothing else. -/
structure Demotes (config : Config) (catalog : Catalog) (c d : Criteria) : Prop where
  same : ∀ s, ¬UsesExcluded c d s → evaluate config catalog d s = evaluate config catalog c s
  lower : ∀ s ∈ catalog.strategies, UsesExcluded c d s →
    (evaluate config catalog d s).score ≤ (evaluate config catalog c s).score
  order : untouched c d (matching config catalog d) <+: untouched c d (matching config catalog c) ∨
    untouched c d (matching config catalog c) <+: untouched c d (matching config catalog d)
  returned : IsWithinLimit config catalog c →
    ∀ m ∈ matching config catalog d, ∃ n ∈ matching config catalog c, n.strategy = m.strategy

/-! ## Scores that are not below zero -/

theorem amountScore_nonneg (s : Strategy) (c : Criteria) : 0 ≤ amountScore Float s c := by
  unfold amountScore
  dsimp only
  split_ifs <;> decide

theorem riskScore_nonneg (factor : 0 ≤ config.riskFactor) : 0 ≤ riskScore Float config s c := by
  have weighted : 0 ≤ (Scale.decimal 8 1 * Scale.ofFloat config.riskFactor : Float) := by
    rw [mul_swap]
    exact nonneg_mul factor (by decide) (by decide)
  unfold riskScore Scale.atMost
  split_ifs
  · decide
  · decide
  · decide
  · exact weighted

theorem protocolScore_nonneg (countable : (protocolSet c.preferred).length < 2 ^ 1023) :
    0 ≤ protocolScore Float s c := by
  unfold protocolScore
  dsimp only
  split
  · decide
  · split
    · decide
    · next some_preferred =>
      have pos : 0 < (protocolSet c.preferred).length := by
        rwa [List.length_pos_iff, ne_eq, ← List.isEmpty_iff]
      obtain ⟨positive, finite⟩ := decimal_of_pos pos countable
      have part := (grows_div positive finite).nonneg (zero_div _).ge
        (decimal_nonneg ((protocolSet s.protocols).countP (protocolSet c.preferred).contains))
      unfold Scale.atMost
      split
      · decide
      · exact part

theorem apyScore_nonneg (s : Strategy) (c : Criteria) : 0 ≤ apyScore Float s c := by
  unfold apyScore
  split
  · decide
  · split
    · decide
    · dsimp only
      unfold Scale.greater
      split
      · next above => exact le_of_lt above
      · decide

theorem leverageScore_nonneg (s : Strategy) (c : Criteria) : 0 ≤ leverageScore Float s c := by
  unfold leverageScore
  split <;> decide

/-! ## Scores that grow with the one for protocols -/

/-- Popularity raises a score by a finite positive factor. -/
theorem popularity_factor {x : Float} (nonneg : 0 ≤ x) (le_one : x ≤ 1) :
    0 < (Scale.one + x * Scale.decimal 1 1 : Float) ∧
    (Scale.one + x * Scale.decimal 1 1 : Float).isFinite = true := by
  have tenth := grows_mul (z := Scale.decimal 1 1) (by decide) (by decide)
  have raised := grows_add_left (z := Scale.one) (by decide)
  have least : (Scale.one + 0 : Float) ≤ Scale.one + x * Scale.decimal 1 1 :=
    raised.le (tenth.nonneg (zero_mul _).ge nonneg)
  have most : (Scale.one + x * Scale.decimal 1 1 : Float) ≤ Scale.one + 1 * Scale.decimal 1 1 :=
    raised.le (tenth.le le_one)
  exact ⟨lt_of_lt_of_le (by decide) least,
    isFinite_of_le_of_le (x := Scale.one + 0) (by decide) (by decide) least most⟩

/-- A weighted sum grows with the third of its parts. -/
theorem weighted_le {amount risk p q apy leverage : Float} (amount_nonneg : 0 ≤ amount)
    (risk_nonneg : 0 ≤ risk) (nonneg : 0 ≤ p) (le : p ≤ q) (apy_nonneg : 0 ≤ apy)
    (leverage_nonneg : 0 ≤ leverage) :
    0 ≤ amount * Scale.decimal 25 2 + risk * Scale.decimal 30 2 + p * Scale.decimal 20 2 +
      apy * Scale.decimal 15 2 + leverage * Scale.decimal 10 2 ∧
    amount * Scale.decimal 25 2 + risk * Scale.decimal 30 2 + p * Scale.decimal 20 2 +
      apy * Scale.decimal 15 2 + leverage * Scale.decimal 10 2 ≤
    amount * Scale.decimal 25 2 + risk * Scale.decimal 30 2 + q * Scale.decimal 20 2 +
      apy * Scale.decimal 15 2 + leverage * Scale.decimal 10 2 := by
  have first : 0 ≤ amount * Scale.decimal 25 2 + risk * Scale.decimal 30 2 :=
    nonneg_add (nonneg_mul amount_nonneg (by decide) (by decide))
      (nonneg_mul risk_nonneg (by decide) (by decide))
  have third : 0 ≤ p * Scale.decimal 20 2 := nonneg_mul nonneg (by decide) (by decide)
  have third_le : p * Scale.decimal 20 2 ≤ q * Scale.decimal 20 2 :=
    (grows_mul (by decide) (by decide)).le le
  have fourth : 0 ≤ apy * Scale.decimal 15 2 := nonneg_mul apy_nonneg (by decide) (by decide)
  have fifth : 0 ≤ leverage * Scale.decimal 10 2 := nonneg_mul leverage_nonneg (by decide) (by decide)
  have upToThird := (add_grows third third_le first).2
  have upToFourth := (add_grows (nonneg_add first third) upToThird fourth).1
  exact ⟨nonneg_add (nonneg_add (nonneg_add first third) fourth) fifth,
    (add_grows (nonneg_add (nonneg_add first third) fourth) upToFourth fifth).1⟩

/-- A strategy that gets no more marks for its protocols, and the same ones for all else, has no
higher score. -/
theorem matchScore_excluding_le (popular : 0 ≤ s.popularity ∧ s.popularity ≤ 1)
    (factor : 0 ≤ config.riskFactor) (nonneg : 0 ≤ protocolScore Float s (c.excluding names))
    (le : protocolScore Float s (c.excluding names) ≤ protocolScore Float s c) :
    matchScore Float config s (c.excluding names) ≤ matchScore Float config s c := by
  have risk : 0 ≤ riskScore Float config s c := riskScore_nonneg factor
  obtain ⟨-, base⟩ := weighted_le (amountScore_nonneg s c) risk nonneg le (apyScore_nonneg s c)
    (leverageScore_nonneg s c)
  replace base : baseScore Float config s (c.excluding names) ≤ baseScore Float config s c := base
  unfold matchScore
  split
  · obtain ⟨positive, finite⟩ := popularity_factor popular.1 popular.2
    exact (grows_mul positive finite).le base
  · exact base

/-! ## Strategies under both criteria -/

theorem any_excluded_iff : (protocolSet s.protocols).any (protocolSet names).contains = true ↔
    ∃ name ∈ protocolSet s.protocols, name ∈ protocolSet names := by
  rw [List.any_eq_true]
  simp only [List.contains_iff_mem]

/-- A strategy that uses a newly excluded protocol gets no marks for its protocols. -/
theorem protocolScore_of_usesExcluded (uses : UsesExcluded c d s) :
    protocolScore Float s d = Scale.zero := by
  obtain ⟨name, used, excluded, -⟩ := uses
  exact if_pos (any_excluded_iff.2 ⟨name, used, excluded⟩)

theorem protocolScore_excluding (more : protocolSet c.excluded ⊆ protocolSet names)
    (not_uses : ¬UsesExcluded c (c.excluding names) s) :
    protocolScore Float s (c.excluding names) = protocolScore Float s c := by
  have same : (protocolSet s.protocols).any (protocolSet (c.excluding names).excluded).contains =
      (protocolSet s.protocols).any (protocolSet c.excluded).contains := by
    rw [Bool.eq_iff_iff, any_excluded_iff, any_excluded_iff]
    constructor
    · rintro ⟨name, used, excluded⟩
      refine ⟨name, used, ?_⟩
      by_contra new
      exact not_uses ⟨name, used, excluded, new⟩
    · exact fun ⟨name, used, excluded⟩ => ⟨name, used, more excluded⟩
  unfold protocolScore
  dsimp only
  rw [same]
  rfl

/-- A strategy that uses no newly excluded protocol is rated as before. -/
theorem evaluate_excluding (more : protocolSet c.excluded ⊆ protocolSet names)
    (not_uses : ¬UsesExcluded c (c.excluding names) s) :
    evaluate config catalog (c.excluding names) s = evaluate config catalog c s := by
  have base : baseScore Float config s (c.excluding names) = baseScore Float config s c := by
    unfold baseScore
    rw [protocolScore_excluding more not_uses]
    rfl
  have score : matchScore Float config s (c.excluding names) = matchScore Float config s c := by
    unfold matchScore
    rw [base]
  have reasons_eq : reasons config s (c.excluding names) = reasons config s c := by
    unfold reasons
    rw [protocolScore_excluding more not_uses]
    rfl
  unfold evaluate
  rw [score, reasons_eq]
  rfl

/-- A strategy that uses one has no higher score than before. -/
theorem score_excluding_le (popular : 0 ≤ s.popularity ∧ s.popularity ≤ 1)
    (factor : 0 ≤ config.riskFactor)
    (countable : (protocolSet c.preferred).length < 2 ^ 1023)
    (uses : UsesExcluded c (c.excluding names) s) :
    (evaluate config catalog (c.excluding names) s).score ≤ (evaluate config catalog c s).score := by
  refine matchScore_excluding_le popular factor ?_ ?_
  · rw [protocolScore_of_usesExcluded uses]
    decide +kernel
  · rw [protocolScore_of_usesExcluded uses]
    exact protocolScore_nonneg countable

/-! ## The results -/

/-- The results for some strategies are the first ones of their own ranking. -/
theorem filter_matching (config : Config) (catalog : Catalog) (c : Criteria) (p : Match → Bool) :
    (matching config catalog c).filter p <+:
      ranked (fun a b => b.score < a.score) ((matched config catalog c).filter p) := by
  rw [← filter_ranked (ranksBy_matched config catalog c)]
  exact (prefix_limited config.maxResults _).filter p

/-- Results that are kept are the same if what they are the results for is rated alike. -/
theorem filter_map_congr {α β : Type} {f g : α → β} {p : β → Bool} {xs : List α}
    (alike : ∀ a ∈ xs, p (f a) = p (g a) ∧ (p (f a) = true → f a = g a)) :
    (xs.map f).filter p = (xs.map g).filter p := by
  induction xs with
  | nil => rfl
  | cons x xs ih =>
    obtain ⟨same, equal⟩ := alike x List.mem_cons_self
    rw [List.map_cons, List.map_cons, List.filter_cons, List.filter_cons, ← same,
      ih fun a ha => alike a (List.mem_cons_of_mem x ha)]
    split
    · next kept => rw [equal kept]
    · rfl

/-- Among the strategies that use no newly excluded protocol the same ones qualify, with the same
results. -/
theorem untouched_matched (config : Config) (catalog : Catalog)
    (more : protocolSet c.excluded ⊆ protocolSet names) :
    untouched c (c.excluding names) (matched config catalog (c.excluding names)) =
      untouched c (c.excluding names) (matched config catalog c) := by
  unfold untouched matched
  rw [List.filter_filter, List.filter_filter, show (c.excluding names).wants = c.wants from rfl]
  refine filter_map_congr fun s _ => ?_
  by_cases uses : UsesExcluded c (c.excluding names) s
  · have left_out (d : Criteria) :
        (!decide (UsesExcluded c (c.excluding names) (evaluate config catalog d s).strategy) &&
          decide (config.leastScore ≤ (evaluate config catalog d s).score)) = false := by
      rw [show (evaluate config catalog d s).strategy = s from rfl, decide_eq_true uses]
      rfl
    rw [left_out, left_out]
    exact ⟨rfl, nofun⟩
  · rw [evaluate_excluding more uses]
    exact ⟨rfl, fun _ => rfl⟩

/-- What qualifies under criteria that exclude more also does under those that exclude less. -/
theorem Qualifies.of_excluding (more : protocolSet c.excluded ⊆ protocolSet names)
    (popular : 0 ≤ s.popularity ∧ s.popularity ≤ 1) (factor : 0 ≤ config.riskFactor)
    (countable : (protocolSet c.preferred).length < 2 ^ 1023)
    (h : Qualifies config catalog (c.excluding names) s) : Qualifies config catalog c s where
  listed := h.listed
  wanted := h.wanted
  suffices_ := by
    have le : (evaluate config catalog (c.excluding names) s).score ≤
        (evaluate config catalog c s).score := by
      by_cases uses : UsesExcluded c (c.excluding names) s
      · exact score_excluding_le popular factor countable uses
      · rw [← evaluate_excluding more uses]
        exact le_self (not_isNaN_of_le h.suffices_).2
    exact Number.le_trans h.suffices_ le

/-- Excluding more protocols only demotes. No list of preferred protocols is longer than doubles can
count. -/
theorem exclusions_demote (more : protocolSet c.excluded ⊆ protocolSet names)
    (popular : ∀ s ∈ catalog.strategies, 0 ≤ s.popularity ∧ s.popularity ≤ 1)
    (factor : 0 ≤ config.riskFactor)
    (countable : (protocolSet c.preferred).length < 2 ^ 1023) :
    Demotes config catalog c (c.excluding names) where
  same _ not_uses := evaluate_excluding more not_uses
  lower s listed uses := score_excluding_le (popular s listed) factor countable uses
  order := by
    have first := filter_matching config catalog (c.excluding names)
      fun m => !decide (UsesExcluded c (c.excluding names) m.strategy)
    have first' :=
      filter_matching config catalog c fun m => !decide (UsesExcluded c (c.excluding names) m.strategy)
    have same := untouched_matched config catalog more
    unfold untouched at same ⊢
    rw [same] at first
    exact List.prefix_or_prefix_of_prefix first first'
  returned within m hm := by
    have qualifies := (mem_matched_iff.1 (mem_ranked.1 ((prefix_limited _ _).subset hm))).1
    have listed := Catalog.mem_strategies_iff.2 qualifies.listed
    obtain ⟨n, hn, same⟩ := List.mem_map.1 (within m.strategy
      (qualifies.of_excluding more (popular m.strategy listed) factor countable))
    exact ⟨n, hn, same⟩

/-- A loan on these protocols. -/
def loanOn (id : String) (protocols : List String) : Strategy where
  id := id
  name := "Loan"
  description := "A loan"
  category := .lending
  risk := .low
  apy := 5
  least := 100
  protocols := protocols
  steps := []

/-- A loan on each of two protocols, and one on both. -/
def twoVenues : Catalog :=
  ⟨[loanOn "silo" ["Silo"], loanOn "both" ["Takara", "Silo"], loanOn "takara" ["Takara"]]⟩

/-- A user who prefers one of them and wants a good match. -/
def preferringTakara : Criteria where
  amount := 500
  tolerance := .low
  preferred := ["takara"]
  excluded := ["Symphony"]

/-- If the other one is excluded, a loan on both is no good match any more. -/
theorem preferringTakara_demoted :
    protocolSet preferringTakara.excluded ⊆ protocolSet ["symphony", "SILO"] ∧
    (∀ s ∈ twoVenues.strategies, 0 ≤ s.popularity ∧ s.popularity ≤ 1) ∧
    0 ≤ ({ leastScore := 0.9 } : Config).riskFactor ∧
    (protocolSet preferringTakara.preferred).length < 2 ^ 1023 ∧
    (matching { leastScore := 0.9 } twoVenues preferringTakara).map (·.strategy.id) = ["both", "takara"] ∧
    (matching { leastScore := 0.9 } twoVenues
      (preferringTakara.excluding ["symphony", "SILO"])).map (·.strategy.id) = ["takara"] ∧
    Demotes { leastScore := 0.9 } twoVenues preferringTakara
      (preferringTakara.excluding ["symphony", "SILO"]) := by
  have more : protocolSet preferringTakara.excluded ⊆ protocolSet ["symphony", "SILO"] := by
    decide +kernel
  have popular : ∀ s ∈ twoVenues.strategies, 0 ≤ s.popularity ∧ s.popularity ≤ 1 := by decide +kernel
  have factor : 0 ≤ ({ leastScore := 0.9 } : Config).riskFactor := by decide +kernel
  have countable : (protocolSet preferringTakara.preferred).length < 2 ^ 1023 := by decide +kernel
  exact ⟨more, popular, factor, countable, by decide +kernel, by decide +kernel,
    exclusions_demote more popular factor countable⟩

end Teller.Strategy
