import Teller.Proofs.Ranking
import Teller.Strategy.Matching

/-!
# The best matches

The strategies that are of a wanted category and score enough are ranked by score, equal ones in the
order of the catalog, and the list is cut to its limit. So it holds the best strategies that
qualify, each once and in order, and nothing is left out while there is room.

    Qualifies                    a strategy that may be listed
    Match.Before                 the order of matches
    IsTop                        the best matches, as many as there may be
    mem_matched_iff              the matches before they are ranked
    before_of_precedes           they are ranked in this order
    matching_isTop               the list that is returned
-/

namespace Teller.Strategy

open Listing Number

variable {config : Config} {catalog : Catalog} {c : Criteria} {s : Strategy} {m n : Match}

/-! ## What ought to be listed -/

/-- A strategy of the catalog that is of a wanted category, if any are named, and scores enough. -/
structure Qualifies (config : Config) (catalog : Catalog) (c : Criteria) (s : Strategy) : Prop where
  listed : catalog.get? s.id = some s
  wanted : ∀ categories ∈ c.categories, categories ≠ [] → s.category ∈ categories
  suffices_ : config.leastScore ≤ matchScore Float config s c

/-- The first match scores no less, and if both score the same it is the first one in the catalog.
-/
def Match.Before (catalog : Catalog) (m n : Match) : Prop :=
  n.score ≤ m.score ∧ (m.score ≤ n.score → [m.strategy, n.strategy].Sublist catalog.strategies)

/-- The best `k` matches of a catalog. -/
structure IsTop (config : Config) (catalog : Catalog) (c : Criteria) (k : Nat) (ms : List Match) :
    Prop where
  length_le : ms.length ≤ k
  nodup : (ms.map (·.strategy.id)).Nodup
  ordered : ms.Pairwise (Match.Before catalog)
  sound : ∀ m ∈ ms, Qualifies config catalog c m.strategy ∧ m = evaluate config catalog c m.strategy
  complete : ∀ s, Qualifies config catalog c s → s ∉ ms.map (·.strategy) →
    ms.length = k ∧ ∀ m ∈ ms, m.Before catalog (evaluate config catalog c s)

/-! ## The matches before they are ranked -/

theorem wants_iff :
    c.wants s = true ↔ ∀ categories ∈ c.categories, categories ≠ [] → s.category ∈ categories := by
  unfold Criteria.wants
  cases c.categories with
  | none => simp
  | some categories => cases categories <;> simp

/-- All matches that score enough, in the order of the catalog. -/
def matched (config : Config) (catalog : Catalog) (c : Criteria) : List Match :=
  ((catalog.strategies.filter c.wants).map (evaluate config catalog c)).filter fun m =>
    config.leastScore ≤ m.score

theorem mem_matched_iff : m ∈ matched config catalog c ↔
    Qualifies config catalog c m.strategy ∧ m = evaluate config catalog c m.strategy := by
  unfold matched
  rw [List.mem_filter, decide_eq_true_iff, List.mem_map]
  constructor
  · rintro ⟨⟨s, hs, rfl⟩, enough⟩
    obtain ⟨listed, wanted⟩ := List.mem_filter.1 hs
    exact ⟨⟨Catalog.mem_strategies_iff.1 listed, wants_iff.1 wanted, enough⟩, rfl⟩
  · rintro ⟨⟨listed, wanted, enough⟩, same⟩
    refine ⟨⟨m.strategy, ?_, same.symm⟩, ?_⟩
    · exact List.mem_filter.2 ⟨Catalog.mem_strategies_iff.2 listed, wants_iff.2 wanted⟩
    · rw [same]
      exact enough

/-- What scores enough has a number for a score. -/
theorem not_isNaN_of_mem_matched (h : m ∈ matched config catalog c) : m.score.isNaN = false := by
  obtain ⟨qualifies, same⟩ := mem_matched_iff.1 h
  rw [same]
  exact (not_isNaN_of_le qualifies.suffices_).2

theorem ranksBy_matched (config : Config) (catalog : Catalog) (c : Criteria) :
    RanksBy (descending Match.score) (fun a b => b.score < a.score) (matched config catalog c) :=
  ranksBy_descending fun _ => not_isNaN_of_mem_matched

/-- The matches keep the order of the catalog. -/
theorem matched_sublist (config : Config) (catalog : Catalog) (c : Criteria) :
    ((matched config catalog c).map (·.strategy)).Sublist catalog.strategies := by
  have evaluated :
      ((catalog.strategies.filter c.wants).map (evaluate config catalog c)).map (·.strategy) =
        catalog.strategies.filter c.wants := by
    rw [List.map_map]
    exact List.map_id _
  have kept := (List.filter_sublist (p := fun m : Match => config.leastScore ≤ m.score)
    (l := (catalog.strategies.filter c.wants).map (evaluate config catalog c))).map (·.strategy)
  rw [evaluated] at kept
  exact kept.trans List.filter_sublist

theorem before_of_precedes (hm : m ∈ matched config catalog c) (hn : n ∈ matched config catalog c)
    (h : Precedes (fun a b => b.score < a.score) (matched config catalog c) m n) :
    m.Before catalog n := by
  obtain ⟨le, tie⟩ := h.of_descending (fun _ => not_isNaN_of_mem_matched) hm hn
  exact ⟨le, fun same => ((tie same).map Match.strategy).trans (matched_sublist config catalog c)⟩

/-! ## The best matches -/

/-- With a limit that is not negative the best matches are returned, as many as there are or may be.
-/
theorem matching_isTop (config : Config) (catalog : Catalog) (c : Criteria)
    (limit : 0 ≤ config.maxResults) :
    IsTop config catalog c config.maxResults.toNat (matching config catalog c) := by
  have cut : matching config catalog c =
      (ranked (fun a b => b.score < a.score) (matched config catalog c)).take config.maxResults.toNat :=
    if_pos limit
  have ranks := ranksBy_matched config catalog c
  have among {m : Match} (hm : m ∈ matching config catalog c) : m ∈ matched config catalog c :=
    mem_ranked.1 (List.mem_of_mem_take (cut ▸ hm))
  constructor
  · rw [cut]
    exact List.length_take_le _ _
  · have distinct : ((matched config catalog c).map (·.strategy.id)).Nodup := by
      have ids := (matched_sublist config catalog c).map (·.id)
      rw [List.map_map] at ids
      exact ids.nodup (Catalog.nodup_ids catalog)
    have same := (ranked_perm (fun a b => b.score < a.score) (matched config catalog c)).map
      (·.strategy.id)
    rw [cut]
    exact ((List.take_sublist _ _).map _).nodup (same.nodup_iff.2 distinct)
  · have ordered := (ranked_pairwise ranks).sublist (List.take_sublist config.maxResults.toNat _)
    rw [← cut] at ordered
    exact ordered.imp_of_mem fun hm hn => before_of_precedes (among hm) (among hn)
  · exact fun m hm => mem_matched_iff.1 (among hm)
  · intro s qualifies left_out
    have candidate : evaluate config catalog c s ∈ matched config catalog c :=
      mem_matched_iff.2 ⟨qualifies, rfl⟩
    have absent : evaluate config catalog c s ∉ matching config catalog c :=
      fun returned => left_out (List.mem_map_of_mem (f := (·.strategy)) returned)
    rw [cut] at absent
    obtain ⟨full, after⟩ := precedes_of_cut ranks candidate absent
    rw [← cut] at full after
    exact ⟨full, fun m hm => before_of_precedes (among hm) candidate (after m hm)⟩

def loan (id : String) (apy : Float) : Strategy where
  id := id
  name := "Loan"
  description := "A loan"
  category := .lending
  risk := .low
  apy := apy
  least := 100
  protocols := ["silo"]
  steps := []

/-- Three loans that score the same, the first one declared twice. -/
def equalLoans : Catalog := ⟨[loan "second" 5, loan "first" 1, loan "second" 1, loan "third" 1]⟩

/-- Any amount will do. -/
def modest : Criteria := { amount := 500, tolerance := .low }

/-- Of strategies that score the same those that come first in the catalog are returned, each once.
-/
theorem equalLoans_isTop : (0 : Int) ≤ ({ maxResults := 2 } : Config).maxResults ∧
    (matching { maxResults := 2 } equalLoans modest).map (·.strategy.id) = ["second", "first"] ∧
    (matching { maxResults := 2 } equalLoans modest).map (·.strategy.apy) = [1, 1] ∧
    IsTop { maxResults := 2 } equalLoans modest 2 (matching { maxResults := 2 } equalLoans modest) := by
  have limit : (0 : Int) ≤ ({ maxResults := 2 } : Config).maxResults := by decide
  exact ⟨limit, by decide +kernel, by decide +kernel, matching_isTop _ _ _ limit⟩

end Teller.Strategy
