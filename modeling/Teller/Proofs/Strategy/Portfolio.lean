import Teller.Proofs.Number.Monotone
import Teller.Proofs.Ranking
import Teller.Strategy.Optimization

/-!
# Suggestions for a portfolio

The suggestions are ranked by their impact. Those to switch are for strategies whose return exceeds
the best current one by more than a fifth, so none of these is held already: they are the three with
the greatest returns, or all if there are fewer. Their impact grows with the return, so they keep
this order among the other suggestions. Of these there is at most one of a kind.

    IsBest                       the best return of a portfolio
    Outperforms                  a strategy that is worth a switch
    IsBestThree                  the best of these
    bestApy?_isBest              the best return is found
    betterYields_isBestThree     and so are the strategies
    impact_switchTo              a better return has no smaller impact
    concerns_sublist             what else there is to suggest
    yieldSuggestions_cases       what there is to switch to
    optimize_isAdvice            all suggestions
-/

namespace Teller.Strategy

open Listing Number

variable {catalog : Catalog} {current tops : List Strategy} {c : Criteria} {s t : Strategy} {best : Float}

/-! ## What ought to be suggested -/

/-- A return of the portfolio that no other one exceeds. -/
structure IsBest (current : List Strategy) (best : Float) : Prop where
  held : best ∈ current.map (·.apy)
  greatest : ∀ s ∈ current, s.apy ≤ best

/-- A strategy of the catalog whose return is more than a fifth above the best current one. -/
structure Outperforms (catalog : Catalog) (best : Float) (s : Strategy) : Prop where
  listed : catalog.get? s.id = some s
  exceeds : best * 1.2 < s.apy

/-- The best three strategies that outperform the current ones, or all if there are fewer. -/
structure IsBestThree (catalog : Catalog) (best : Float) (tops : List Strategy) : Prop where
  length_le : tops.length ≤ 3
  nodup : (tops.map (·.id)).Nodup
  sound : ∀ s ∈ tops, Outperforms catalog best s
  complete : ∀ s, Outperforms catalog best s → s ∉ tops → tops.length = 3 ∧ ∀ t ∈ tops, s.apy ≤ t.apy

def ofKind (kind : Suggestion.Kind) (suggestions : List Suggestion) : List Suggestion :=
  suggestions.filter (·.kind = kind)

/-- Suggestions that are worth following, in the order of their impact. -/
structure IsAdvice (catalog : Catalog) (current : List Strategy) (suggestions : List Suggestion) :
    Prop where
  ordered : suggestions.Pairwise fun a b => b.impact ≤ a.impact
  single : ∀ kind, kind ≠ .yieldIncrease → (ofKind kind suggestions).length ≤ 1
  empty : current = [] → suggestions = []
  yields : current ≠ [] → ∃ best, IsBest current best ∧
    (best ≤ 0 → ofKind .yieldIncrease suggestions = []) ∧
    (0 < best → ∃ tops, IsBestThree catalog best tops ∧ (∀ s ∈ tops, s ∉ current) ∧
      ofKind .yieldIncrease suggestions = tops.map (switchTo best))

/-! ## Better returns -/

theorem bestApy?_isBest (numbers : ∀ s ∈ current, s.apy.isNaN = false)
    (found : bestApy? current = some best) :
    IsBest current best := by
  have numbers' : ∀ apy ∈ current.map (·.apy), apy.isNaN = false := by
    rintro _ h
    obtain ⟨s, hs, rfl⟩ := List.mem_map.1 h
    exact numbers s hs
  have ranks : RanksBy (descending fun apy => apy) (fun a b => b < a) (current.map (·.apy)) :=
    ranksBy_descending numbers'
  have held : best ∈ current.map (·.apy) := mem_of_greatest? found
  refine ⟨held, fun s hs => ?_⟩
  have not_above : decide (best < s.apy) = false :=
    not_exceeds_of_greatest? ranks found s.apy (List.mem_map_of_mem hs)
  exact le_of_not_lt (numbers s hs) (numbers' best held) (of_decide_eq_false not_above)

theorem exists_bestApy? (some_current : current ≠ []) : ∃ best, bestApy? current = some best := by
  cases current with
  | nil => exact absurd rfl some_current
  | cons s rest => exact ⟨_, rfl⟩

/-- A fifth more than a positive return is no less. -/
theorem le_fifth_more (pos : 0 < best) : best ≤ best * 1.2 :=
  le_mul_of_one_le (le_of_lt pos) (by decide +kernel) (by decide +kernel)

namespace Outperforms

/-- A return that can be exceeded by a fifth is not infinite. -/
theorem isFinite (h : Outperforms catalog best s) (pos : 0 < best) : best.isFinite = true := by
  cases finite : best.isFinite with
  | true => rfl
  | false =>
    have grows := grows_mul (z := 1.2) (by decide +kernel) (by decide +kernel)
    have above := le_infinity (not_isNaN_of_lt h.exceeds).2
      (grows.infinite best _ (unpack_of_pos pos finite))
    exact absurd h.exceeds (not_lt_of_le above)

/-- What is worth a switch is not held already. -/
theorem not_mem (h : Outperforms catalog best s) (pos : 0 < best) (isBest : IsBest current best) :
    s ∉ current :=
  fun held => not_lt_of_le (le_trans (isBest.greatest s held) (le_fifth_more pos)) h.exceeds

end Outperforms

/-- The strategies of the catalog that outperform the current ones. -/
def outperforming (catalog : Catalog) (best : Float) : List Strategy :=
  catalog.strategies.filter fun s => best * 1.2 < s.apy

theorem mem_outperforming_iff : s ∈ outperforming catalog best ↔ Outperforms catalog best s := by
  unfold outperforming
  rw [List.mem_filter, decide_eq_true_iff, Catalog.mem_strategies_iff]
  exact ⟨fun h => ⟨h.1, h.2⟩, fun h => ⟨h.1, h.2⟩⟩

theorem not_isNaN_of_mem_outperforming (h : s ∈ outperforming catalog best) : s.apy.isNaN = false :=
  (not_isNaN_of_lt (mem_outperforming_iff.1 h).exceeds).2

theorem ranksBy_apy (catalog : Catalog) (best : Float) :
    RanksBy (descending Strategy.apy) (fun a b => b.apy < a.apy) (outperforming catalog best) :=
  ranksBy_descending fun _ => not_isNaN_of_mem_outperforming

theorem mem_outperforming_of_mem (h : s ∈ betterYields catalog best) : s ∈ outperforming catalog best :=
  mem_ranked.1 (List.mem_of_mem_take h)

theorem betterYields_isBestThree (catalog : Catalog) (best : Float) :
    IsBestThree catalog best (betterYields catalog best) where
  length_le := List.length_take_le _ _
  nodup := by
    have distinct : ((outperforming catalog best).map (·.id)).Nodup :=
      (List.filter_sublist.map _).nodup (Catalog.nodup_ids catalog)
    have same := (ranked_perm (fun a b => b.apy < a.apy) (outperforming catalog best)).map (·.id)
    exact ((List.take_sublist 3 _).map _).nodup (same.nodup_iff.2 distinct)
  sound s hs := mem_outperforming_iff.1 (mem_outperforming_of_mem hs)
  complete s worth left_out := by
    have listed := mem_outperforming_iff.2 worth
    obtain ⟨full, after⟩ := precedes_of_cut (ranksBy_apy catalog best) listed left_out
    exact ⟨full, fun t ht => ((after t ht).of_descending (fun _ => not_isNaN_of_mem_outperforming)
      (mem_outperforming_of_mem ht) listed).1⟩

/-- The strategies are suggested in the order of their returns. -/
theorem betterYields_ordered (catalog : Catalog) (best : Float) :
    (betterYields catalog best).Pairwise fun s t => t.apy ≤ s.apy := by
  have ordered := (ranked_pairwise (ranksBy_apy catalog best)).sublist (List.take_sublist 3 _)
  exact ordered.imp_of_mem fun hs ht earlier =>
    (earlier.of_descending (fun _ => not_isNaN_of_mem_outperforming)
    (mem_outperforming_of_mem hs) (mem_outperforming_of_mem ht)).1

/-! ## Impacts -/

/-- A better return has no smaller impact, and every return has one. -/
theorem impact_switchTo (pos : 0 < best) (finite : best.isFinite = true) (le : s.apy ≤ t.apy) :
    (switchTo best s).impact.isNaN = false ∧ (switchTo best s).impact ≤ (switchTo best t).impact := by
  have percent := grows_mul (z := 100) (by decide +kernel) (by decide +kernel)
  have relative := grows_div pos finite
  have more := grows_sub finite
  exact ⟨percent.not_isNaN (relative.not_isNaN (more.not_isNaN (not_isNaN_of_le le).1)),
    percent.le (relative.le (more.le le))⟩

theorem impact_switchTo_not_isNaN (pos : 0 < best) (worth : Outperforms catalog best s) :
    (switchTo best s).impact.isNaN = false :=
  (impact_switchTo pos (worth.isFinite pos) (le_self (not_isNaN_of_lt worth.exceeds).2)).1

/-- Suggestions to switch are in the order of their impact. -/
theorem switches_ordered (pos : 0 < best) :
    ((betterYields catalog best).map (switchTo best)).Pairwise fun a b => b.impact ≤ a.impact := by
  refine List.pairwise_map.2 ((betterYields_ordered catalog best).imp_of_mem fun hs ht le => ?_)
  have worth := (betterYields_isBestThree catalog best).sound _ hs
  exact (impact_switchTo pos (worth.isFinite pos) le).2

/-! ## All suggestions -/

/-- What is suggested besides better returns. -/
def concerns (current : List Strategy) (c : Criteria) : List Suggestion :=
  (if current.any fun s => c.tolerance.rank < s.risk.rank then [reduceRisk] else []) ++
    (if isConcentrated current then [diversify] else []) ++
    if current.any fun s => s.steps.any fun step => 500000 < step.gas then [saveGas] else []

def suggested (catalog : Catalog) (current : List Strategy) (c : Criteria) : List Suggestion :=
  yieldSuggestions catalog current ++ concerns current c

theorem optimize_eq (some_current : current ≠ []) :
    optimize catalog current c =
      ranked (fun a b => b.impact < a.impact) (suggested catalog current c) := by
  unfold optimize suggested concerns
  rw [if_neg (mt List.isEmpty_iff.1 some_current), List.append_assoc, List.append_assoc,
    List.append_assoc]

theorem ite_sublist (p : Prop) [Decidable p] (a : Suggestion) : (if p then [a] else []).Sublist [a] := by
  split
  · exact .refl _
  · exact List.nil_sublist _

/-- There is at most one suggestion of each other kind. -/
theorem concerns_sublist (current : List Strategy) (c : Criteria) :
    (concerns current c).Sublist [reduceRisk, diversify, saveGas] :=
  ((ite_sublist _ _).append (ite_sublist _ _)).append (ite_sublist _ _)

theorem kind_of_mem_yieldSuggestions {a : Suggestion} (h : a ∈ yieldSuggestions catalog current) :
    a.kind = .yieldIncrease := by
  unfold yieldSuggestions at h
  split at h
  · split at h
    · cases h
    · obtain ⟨s, -, rfl⟩ := List.mem_map.1 h
      rfl
  · cases h

/-- There is nothing to switch to if the portfolio earns nothing, and else the best three are
suggested. -/
theorem yieldSuggestions_cases (catalog : Catalog) (numbers : ∀ s ∈ current, s.apy.isNaN = false)
    (some_current : current ≠ []) : ∃ best, IsBest current best ∧
    (best ≤ 0 ∧ yieldSuggestions catalog current = [] ∨
      0 < best ∧ yieldSuggestions catalog current = (betterYields catalog best).map (switchTo best)) := by
  obtain ⟨best, found⟩ := exists_bestApy? some_current
  have isBest := bestApy?_isBest numbers found
  refine ⟨best, isBest, ?_⟩
  unfold yieldSuggestions
  rw [found]
  by_cases nothing : best ≤ 0
  · exact .inl ⟨nothing, if_pos nothing⟩
  · obtain ⟨s, hs, apy⟩ := List.mem_map.1 isBest.held
    have number : best.isNaN = false := apy ▸ numbers s hs
    have pos : 0 < best := by
      by_contra not_pos
      exact nothing (le_of_not_lt number denotes_zero.not_isNaN not_pos)
    exact .inr ⟨pos, if_neg nothing⟩

theorem not_isNaN_of_mem_suggested (numbers : ∀ s ∈ current, s.apy.isNaN = false)
    (some_current : current ≠ [])
    {a : Suggestion} (h : a ∈ suggested catalog current c) : a.impact.isNaN = false := by
  rcases List.mem_append.1 h with switch | concern
  · obtain ⟨best, -, ⟨-, none_better⟩ | ⟨pos, better⟩⟩ :=
      yieldSuggestions_cases catalog numbers some_current
    · rw [none_better] at switch
      cases switch
    · rw [better] at switch
      obtain ⟨s, hs, rfl⟩ := List.mem_map.1 switch
      exact impact_switchTo_not_isNaN pos ((betterYields_isBestThree catalog best).sound s hs)
  · have impacts : ∀ a ∈ [reduceRisk, diversify, saveGas], a.impact.isNaN = false := by decide +kernel
    exact impacts a ((concerns_sublist current c).subset concern)

theorem ofKind_yieldIncrease (catalog : Catalog) (current : List Strategy) (c : Criteria) :
    ofKind .yieldIncrease (suggested catalog current c) = yieldSuggestions catalog current := by
  have switches : ofKind .yieldIncrease (yieldSuggestions catalog current) =
      yieldSuggestions catalog current :=
    List.filter_eq_self.2 fun a ha => decide_eq_true (kind_of_mem_yieldSuggestions ha)
  have others : ofKind .yieldIncrease (concerns current c) = [] :=
    List.sublist_nil.1 ((concerns_sublist current c).filter _)
  unfold ofKind suggested at *
  rw [List.filter_append, switches, others, List.append_nil]

theorem length_ofKind_le_one (catalog : Catalog) (current : List Strategy) (c : Criteria)
    {kind : Suggestion.Kind}
    (other : kind ≠ .yieldIncrease) : (ofKind kind (suggested catalog current c)).length ≤ 1 := by
  have switches : ofKind kind (yieldSuggestions catalog current) = [] := by
    refine List.filter_eq_nil_iff.2 fun a ha same => other ?_
    rw [← of_decide_eq_true same, kind_of_mem_yieldSuggestions ha]
  have among := ((concerns_sublist current c).filter (·.kind = kind)).length_le
  have single : ([reduceRisk, diversify, saveGas].filter (·.kind = kind)).length ≤ 1 := by
    cases kind <;> decide
  unfold ofKind suggested at *
  rw [List.filter_append, switches, List.nil_append]
  exact among.trans single

/-- The suggestions are in the order of their impact, with those to switch to the best strategies
that are worth it and at most one of each other kind. -/
theorem optimize_isAdvice (catalog : Catalog) (c : Criteria)
    (numbers : ∀ s ∈ current, s.apy.isNaN = false) :
    IsAdvice catalog current (optimize catalog current c) := by
  by_cases some_current : current = []
  · have none_suggested : optimize catalog current c = [] := if_pos (List.isEmpty_iff.2 some_current)
    rw [none_suggested]
    exact ⟨.nil, fun _ _ => Nat.zero_le 1, fun _ => rfl, fun h => absurd some_current h⟩
  have impacts {a : Suggestion} : a ∈ suggested catalog current c → a.impact.isNaN = false :=
    not_isNaN_of_mem_suggested numbers some_current
  have ranks : RanksBy (descending Suggestion.impact) (fun a b => b.impact < a.impact)
      (suggested catalog current c) :=
    ranksBy_descending fun _ => impacts
  have kinds (kind : Suggestion.Kind) : ofKind kind (optimize catalog current c) =
      ranked (fun a b => b.impact < a.impact) (ofKind kind (suggested catalog current c)) := by
    rw [optimize_eq some_current]
    exact filter_ranked ranks _
  constructor
  · rw [optimize_eq some_current]
    exact (ranked_pairwise ranks).imp_of_mem fun ha hb earlier =>
      (earlier.of_descending (fun _ => impacts) (mem_ranked.1 ha) (mem_ranked.1 hb)).1
  · intro kind other
    rw [kinds, (ranked_perm _ _).length_eq]
    exact length_ofKind_le_one catalog current c other
  · exact fun none_current => absurd none_current some_current
  · intro _
    obtain ⟨best, isBest, yields⟩ := yieldSuggestions_cases catalog numbers some_current
    have tops := betterYields_isBestThree catalog best
    rw [kinds, ofKind_yieldIncrease]
    refine ⟨best, isBest, fun nothing => ?_, fun pos => ?_⟩
    · obtain ⟨-, none_better⟩ | ⟨pos, -⟩ := yields
      · rw [none_better]
        rfl
      · exact absurd pos (not_lt_of_le nothing)
    · refine ⟨betterYields catalog best, tops, fun s hs => (tops.sound s hs).not_mem pos isBest, ?_⟩
      obtain ⟨nothing, -⟩ | ⟨-, better⟩ := yields
      · exact absurd pos (not_lt_of_le nothing)
      · rw [better]
        exact ranked_of_pairwise ((switches_ordered pos).imp fun le => decide_eq_false (not_lt_of_le le))

/-- A user who only lends. -/
def lender : Criteria := { amount := 1000, tolerance := .low }

/-- Who only lends is told of the three best strategies and of the concentration on one protocol;
the fourth one that outperforms lending is left out. -/
theorem lender_advised : (∀ s ∈ Catalog.standard.strategies.take 1, s.apy.isNaN = false) ∧
    (optimize .standard (Catalog.standard.strategies.take 1) lender).map (·.title) =
      ["Switch to Cross-DEX Arbitrage", "Switch to Leveraged SEI Yield Farming",
        "Switch to SEI/USDC LP on DragonSwap", "Diversify Protocol Exposure"] ∧
    IsAdvice .standard (Catalog.standard.strategies.take 1)
      (optimize .standard (Catalog.standard.strategies.take 1) lender) := by
  have numbers : ∀ s ∈ Catalog.standard.strategies.take 1, s.apy.isNaN = false := by decide +kernel
  exact ⟨numbers, by decide +kernel, optimize_isAdvice .standard lender numbers⟩

end Teller.Strategy
