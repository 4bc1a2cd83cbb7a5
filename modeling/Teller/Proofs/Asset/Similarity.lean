import Teller.Proofs.Asset.Symbols
import Teller.Proofs.Number.Sums
import Teller.Proofs.Ranking
import Teller.Proofs.Success

/-!
# Assets by similarity

A reference that is neither a symbol nor a further name is resolved by similarity, if that is
allowed. The assets with a score are ranked by their best scores, then by popularity, then in the
order of the catalog. The first one is the answer, provided its score suffices, and the next ones
are its alternatives.

    Scores, IsScore              the scores of an asset, and the best of them
    of_mem_scored                the assets that are ranked have a score
    ranksBy_scored               they are ranked by score and popularity
    isRanking_fuzzyMatches       they are ranked as they ought to be
    resolve_eq_ok_iff            how an unlisted reference is resolved
    score_le_first               the first asset has the highest score
    resolved_by_similarity       when it is resolved, and to what
-/

namespace Teller.Asset

open Listing Number

variable {config : Config} {catalog : Catalog} {needle raw : String} {a b : Asset} {m n : Scored}
    {s t : Float}

/-! ## Scores -/

/-- A score of an asset for a text in small letters: its symbol or its name is similar, or the text
is a part of one of them. -/
inductive Scores (needle : String) (a : Asset) : Float → Prop
  | symbol (similar : 0.3 < similarity needle (Text.lower a.symbol)) :
      Scores needle a (similarity needle (Text.lower a.symbol) * 0.9)
  | name (similar : 0.3 < similarity needle (Text.lower (normalizeSymbol a.name))) :
      Scores needle a (similarity needle (Text.lower (normalizeSymbol a.name)) * 0.8)
  | part (within : Text.contains (Text.lower a.symbol) needle = true ∨
      Text.contains (Text.lower (normalizeSymbol a.name)) needle = true) : Scores needle a 0.7

/-- The score of an asset is the largest one that it gets. -/
structure IsScore (needle : String) (a : Asset) (s : Float) : Prop where
  scores : Scores needle a s
  largest : ∀ t, Scores needle a t → t ≤ s

theorem Scores.not_isNaN (h : Scores needle a s) : s.isNaN = false := by
  have weighted {x weight : Float} (similar : 0.3 < x) (finite : weight.isFinite = true)
      (nonzero : (weight == 0) = false) : (x * weight).isNaN = false :=
    isNaN_mul (not_isNaN_of_lt similar).2 finite nonzero
  cases h with
  | symbol similar => exact weighted similar rfl rfl
  | name similar => exact weighted similar rfl rfl
  | part => decide +kernel

theorem exists_mem_offers_iff : (∃ kind, (s, kind) ∈ offers needle a) ↔ Scores needle a s := by
  unfold offers
  simp only [List.mem_append, List.mem_ite_nil_right, List.mem_singleton, Bool.or_eq_true, Prod.mk.injEq]
  constructor
  · rintro ⟨kind, (⟨similar, rfl, -⟩ | ⟨similar, rfl, -⟩) | ⟨within, rfl, -⟩⟩
    · exact .symbol similar
    · exact .name similar
    · exact .part within
  · rintro (similar | similar | within)
    · exact ⟨_, .inl (.inl ⟨similar, rfl, rfl⟩)⟩
    · exact ⟨_, .inl (.inr ⟨similar, rfl, rfl⟩)⟩
    · exact ⟨_, .inr ⟨within, rfl, rfl⟩⟩

theorem not_isNaN_of_mem_offers {kind : MatchKind} (h : (s, kind) ∈ offers needle a) : s.isNaN = false :=
  (exists_mem_offers_iff.1 ⟨kind, h⟩).not_isNaN

theorem ranksBy_offers : RanksBy (descending Prod.fst) (fun a b => b.1 < a.1) (offers needle a) :=
  ranksBy_descending fun _ => not_isNaN_of_mem_offers

/-- An asset is scored by the best of its scores. -/
theorem of_scored? (h : scored? needle a = some m) :
    m.asset = a ∧ IsScore needle a m.score ∧ (m.kind = .fuzzy ∨ m.kind = .partly) := by
  obtain ⟨⟨best, kind⟩, found, rfl⟩ := Option.map_eq_some_iff.1 h
  have listed := mem_of_greatest? found
  refine ⟨rfl, ⟨exists_mem_offers_iff.1 ⟨kind, listed⟩, fun t ht => ?_⟩, kind_of_mem_offers listed⟩
  obtain ⟨kind', offered⟩ := exists_mem_offers_iff.2 ht
  have unexceeded := not_exceeds_of_greatest? ranksBy_offers found _ offered
  rw [decide_eq_false_iff_not] at unexceeded
  exact le_of_not_lt (not_isNaN_of_mem_offers offered) (not_isNaN_of_mem_offers listed) unexceeded

theorem exists_scored? (h : Scores needle a s) : ∃ m, scored? needle a = some m := by
  obtain ⟨kind, offered⟩ := exists_mem_offers_iff.2 h
  unfold scored?
  cases found : offers needle a with
  | nil =>
    rw [found] at offered
    cases offered
  | cons => exact ⟨_, rfl⟩

/-! ## The ranking -/

/-- Of two assets with scores the first one is ranked higher: its score is higher, or it is the same
and the asset is more popular, or that is the same too and the asset comes first in the catalog. -/
def RankedBefore (catalog : Catalog) (needle : String) (a b : Asset) : Prop :=
  ∃ s t, IsScore needle a s ∧ IsScore needle b t ∧
    (t < s ∨ (s == t) = true ∧
      (b.popularity < a.popularity ∨
        a.popularity = b.popularity ∧ [a, b].Sublist catalog.declared))

/-- All assets with a score, the one that is ranked highest first. -/
structure IsRanking (catalog : Catalog) (needle : String) (ranking : List Asset) : Prop where
  mem_iff : ∀ a, a ∈ ranking ↔ a ∈ catalog.declared ∧ ∃ s, IsScore needle a s
  nodup : ranking.Nodup
  ordered : ranking.Pairwise (RankedBefore catalog needle)

/-- Scored assets by score, then by popularity. -/
def Scored.compare : Scored → Scored → Ordering :=
  compareLex (fun m n => order n.score m.score) fun m n =>
    Ord.compare n.asset.popularity m.asset.popularity

instance : Std.TransCmp Scored.compare :=
  have : Std.TransCmp fun m n : Scored => order n.score m.score :=
    inferInstanceAs (Std.TransCmp (descending Scored.score))
  have : Std.TransCmp fun m n : Scored => Ord.compare n.asset.popularity m.asset.popularity :=
    { eq_swap := Std.OrientedCmp.eq_swap, isLE_trans := fun h h' => Std.TransCmp.isLE_trans h' h }
  Std.instTransCmpCompareLex

theorem Scored.better_iff (hm : m.score.isNaN = false) (hn : n.score.isNaN = false) :
    m.better n = true ↔ Scored.compare m n = .lt := by
  unfold Scored.better Scored.compare compareLex
  rw [Bool.or_eq_true, Bool.and_eq_true, decide_eq_true_iff, decide_eq_true_iff, lt_iff hn hm,
    beq_iff hm hn, Ordering.then_eq_lt, Int.compare_eq_lt]
  show _ ↔ order n.score m.score = .lt ∨ order n.score m.score = .eq ∧ _
  rw [← order_swap m.score n.score, Ordering.swap_eq_eq]

/-- The scored assets of a catalog, as they are listed. -/
def scored (catalog : Catalog) (needle : String) : List Scored :=
  catalog.assets.filterMap (scored? needle)

theorem of_mem_scored (h : m ∈ scored catalog needle) :
    m.asset ∈ catalog.assets ∧ IsScore needle m.asset m.score ∧ (m.kind = .fuzzy ∨ m.kind = .partly) := by
  obtain ⟨a, listed, found⟩ := List.mem_filterMap.1 h
  obtain ⟨rfl, score, kind⟩ := of_scored? found
  exact ⟨listed, score, kind⟩

theorem ranksBy_scored (catalog : Catalog) (needle : String) :
    RanksBy Scored.compare Scored.better (scored catalog needle) :=
  fun _ hm _ hn => Scored.better_iff (of_mem_scored hm).2.1.scores.not_isNaN
    (of_mem_scored hn).2.1.scores.not_isNaN

/-- The scored assets keep the order of the catalog. -/
theorem map_asset_sublist (needle : String) (assets : List Asset) :
    ((assets.filterMap (scored? needle)).map (·.asset)).Sublist assets := by
  induction assets with
  | nil => exact .slnil
  | cons a assets ih =>
    cases found : scored? needle a with
    | none =>
      rw [List.filterMap_cons_none found]
      exact ih.cons a
    | some m =>
      rw [List.filterMap_cons_some found, List.map_cons, (of_scored? found).1]
      exact ih.cons_cons a

theorem assets_eq_declared (distinct : catalog.HasDistinctSymbols) :
    catalog.assets = catalog.declared := by
  have entries : ((catalog.declared.map fun a => (Text.upper a.symbol, a)).map (·.1)).Nodup := by
    rw [List.map_map]
    exact distinct
  unfold Catalog.assets Catalog.table Table.values
  rw [Table.ofList_eq_self entries, List.map_map]
  exact List.map_id _

/-- Two scored assets in the order of their ranking. -/
theorem rankedBefore_of_precedes (distinct : catalog.HasDistinctSymbols)
    (hm : m ∈ scored catalog needle) (hn : n ∈ scored catalog needle)
    (h : Precedes Scored.better (scored catalog needle) m n) :
    RankedBefore catalog needle m.asset n.asset := by
  have score := (of_mem_scored hm).2.1
  have score' := (of_mem_scored hn).2.1
  refine ⟨m.score, n.score, score, score', ?_⟩
  rcases h with better | ⟨not_worse, earlier⟩
  · unfold Scored.better at better
    rw [Bool.or_eq_true, Bool.and_eq_true, decide_eq_true_iff, decide_eq_true_iff] at better
    exact better.imp_right fun ⟨same, popular⟩ => ⟨same, .inl popular⟩
  · unfold Scored.better at not_worse
    rw [Bool.or_eq_false_iff, decide_eq_false_iff_not] at not_worse
    have number := score.scores.not_isNaN
    have number' := score'.scores.not_isNaN
    refine (lt_or_beq_of_not_lt number number' not_worse.1).imp_right fun same => ⟨same, ?_⟩
    rw [beq_symm same, Bool.true_and, decide_eq_false_iff_not] at not_worse
    refine (Int.lt_or_eq_of_le (Int.not_lt.1 not_worse.2)).imp_right fun equal => ⟨equal.symm, ?_⟩
    have listed := (earlier.map (·.asset)).trans (map_asset_sublist needle catalog.assets)
    rw [assets_eq_declared distinct] at listed
    exact listed

/-- The assets with a score, as they are ranked. -/
theorem isRanking_fuzzyMatches (distinct : catalog.HasDistinctSymbols) (reference : String) :
    IsRanking catalog (Text.lower reference) ((fuzzyMatches catalog reference).map (·.asset)) := by
  constructor
  · intro a
    rw [List.mem_map]
    constructor
    · rintro ⟨m, ranked, rfl⟩
      obtain ⟨listed, score, -⟩ := of_mem_scored (mem_ranked.1 ranked)
      exact ⟨assets_eq_declared distinct ▸ listed, _, score⟩
    · rintro ⟨declared, s, score⟩
      obtain ⟨m, found⟩ := exists_scored? score.scores
      refine ⟨m, mem_ranked.2 (List.mem_filterMap.2 ⟨a, ?_, found⟩), (of_scored? found).1⟩
      rw [assets_eq_declared distinct]
      exact declared
  · have nodup : catalog.declared.Nodup := List.Nodup.of_map _ distinct
    have perm := (ranked_perm Scored.better (scored catalog (Text.lower reference))).map (·.asset)
    refine perm.nodup_iff.2 ((map_asset_sublist _ _).nodup ?_)
    rw [assets_eq_declared distinct]
    exact nodup
  · rw [List.pairwise_map]
    exact (ranked_pairwise (ranksBy_scored catalog _)).imp_of_mem fun hm hn =>
      rankedBefore_of_precedes distinct (mem_ranked.1 hm) (mem_ranked.1 hn)

/-! ## Resolution by similarity -/

/-- A reference that is neither a symbol nor a further name of the catalog. -/
structure Catalog.IsUnlisted (catalog : Catalog) (reference : String) : Prop where
  no_symbol : ∀ a ∈ catalog.declared, Text.upper a.symbol ≠ reference
  no_alias : ∀ a ∈ catalog.declared, ∀ other ∈ a.aliases, normalizeSymbol other ≠ reference

/-- Such a reference is resolved by similarity or not at all. -/
theorem resolve_eq_ok_iff {r : Resolution} (distinct : catalog.HasDistinctSymbols)
    (nonempty : normalizeSymbol raw ≠ "") (unlisted : catalog.IsUnlisted (normalizeSymbol raw)) :
    resolve config catalog raw = .ok r ↔ config.fuzzy = true ∧
      resolveFuzzily? config (fuzzyMatches catalog (normalizeSymbol raw)) = some r := by
  have no_symbol : catalog.table.get? (normalizeSymbol raw) = none := by
    rw [Option.eq_none_iff_forall_ne_some]
    intro a found
    obtain ⟨declared, same⟩ := (get?_table_eq_some_iff distinct).1 found
    exact unlisted.no_symbol a declared same
  have no_alias : catalog.ofAlias? (normalizeSymbol raw) = none := by
    unfold Catalog.ofAlias?
    rw [List.find?_eq_none]
    intro a declared named
    obtain ⟨other, mem, same⟩ := List.any_eq_true.1 named
    exact unlisted.no_alias a declared other mem (beq_iff_eq.1 same)
  unfold resolve
  dsimp only
  rw [if_neg (by simpa using nonempty), no_symbol, no_alias]
  dsimp only
  cases config.fuzzy with
  | false => exact iff_of_false nofun nofun
  | true =>
    rw [if_pos rfl]
    cases resolveFuzzily? config (fuzzyMatches catalog (normalizeSymbol raw)) with
    | none => exact iff_of_false nofun nofun
    | some answer => simp

theorem resolveFuzzily?_cons {rest : List Scored} {r : Resolution} :
    resolveFuzzily? config (m :: rest) = some r ↔ config.leastScore ≤ m.score ∧
      r = { asset := m.asset, confidence := roundTo 4 m.score, kind := m.kind
            alternatives := ((limited config.maxSuggestions (m :: rest)).drop 1).map (·.asset)
            suggestions := ((m :: rest).take 3).map fun m =>
              s!"Did you mean {m.asset.symbol} ({m.asset.name})?" } := by
  unfold resolveFuzzily?
  dsimp only
  split
  · next suffices_ =>
    rw [Option.some.injEq, eq_comm]
    exact (and_iff_right suffices_).symm
  · next low => exact iff_of_false nofun fun h => low h.1

/-- No score is above that of the first asset of the ranking. -/
theorem score_le_first {reference : String} {rest : List Scored} (distinct : catalog.HasDistinctSymbols)
    (first : fuzzyMatches catalog reference = m :: rest) (declared : a ∈ catalog.declared)
    (score : IsScore (Text.lower reference) a s) : s ≤ m.score := by
  have ordered := ranked_pairwise (ranksBy_scored catalog (Text.lower reference))
  have mem {n : Scored} : n ∈ scored catalog (Text.lower reference) ↔ n ∈ m :: rest := by
    rw [← first]
    exact mem_ranked.symm
  obtain ⟨n, found⟩ := exists_scored? score.scores
  obtain ⟨rfl, score', -⟩ := of_scored? found
  have listed : n ∈ scored catalog (Text.lower reference) := by
    refine List.mem_filterMap.2 ⟨n.asset, ?_, found⟩
    rw [assets_eq_declared distinct]
    exact declared
  have best := score'.largest s score.scores
  rcases List.mem_cons.1 (mem.1 listed) with rfl | later
  · exact best
  · have main := mem.2 List.mem_cons_self
    change (fuzzyMatches catalog reference).Pairwise _ at ordered
    rw [first] at ordered
    have precedes := (List.pairwise_cons.1 ordered).1 n later
    have not_better := (ranksBy_scored catalog _).not_better_of_precedes main listed precedes
    unfold Scored.better at not_better
    rw [Bool.or_eq_false_iff, decide_eq_false_iff_not] at not_better
    have number := (of_mem_scored main).2.1.scores.not_isNaN
    exact le_trans best (le_of_not_lt score'.scores.not_isNaN number not_better.1)

/-- An unlisted reference is resolved exactly if similarity is allowed and some score suffices. The
answer is the asset that is ranked highest, and its alternatives are the next ones. -/
theorem resolved_by_similarity (config : Config) (distinct : catalog.HasDistinctSymbols)
    (room : 1 ≤ config.maxSuggestions) (nonempty : normalizeSymbol raw ≠ "")
    (unlisted : catalog.IsUnlisted (normalizeSymbol raw)) :
    ((∃ r, resolve config catalog raw = .ok r ∧ (r.kind = .fuzzy ∨ r.kind = .partly)) ↔
      config.fuzzy = true ∧ ∃ a ∈ catalog.declared, ∃ s,
        IsScore (Text.lower (normalizeSymbol raw)) a s ∧ config.leastScore ≤ s) ∧
    ∀ r, resolve config catalog raw = .ok r → ∃ others,
      IsRanking catalog (Text.lower (normalizeSymbol raw)) (r.asset :: others) ∧
        r.alternatives = others.take (config.maxSuggestions - 1).toNat := by
  have resolved (r : Resolution) : resolve config catalog raw = .ok r ↔ _ :=
    resolve_eq_ok_iff distinct nonempty unlisted
  have ranking := isRanking_fuzzyMatches distinct (normalizeSymbol raw)
  cases first : fuzzyMatches catalog (normalizeSymbol raw) with
  | nil =>
    rw [first] at ranking resolved
    have none (r : Resolution) : ¬resolve config catalog raw = .ok r :=
      fun found => absurd ((resolved r).1 found).2 nofun
    refine ⟨iff_of_false ?_ ?_, fun r found => absurd found (none r)⟩
    · rintro ⟨r, found, -⟩
      exact none r found
    · rintro ⟨-, a, declared, s, score, -⟩
      exact absurd ((ranking.mem_iff a).2 ⟨declared, s, score⟩) List.not_mem_nil
  | cons m rest =>
    have listed : m ∈ scored catalog (Text.lower (normalizeSymbol raw)) :=
      mem_ranked.1 (show m ∈ fuzzyMatches catalog _ from first ▸ List.mem_cons_self)
    obtain ⟨mem, score, kind⟩ := of_mem_scored listed
    rw [assets_eq_declared distinct] at mem
    rw [first, List.map_cons] at ranking
    simp only [first, resolveFuzzily?_cons] at resolved
    refine ⟨⟨?_, ?_⟩, ?_⟩
    · rintro ⟨r, found, -⟩
      obtain ⟨allowed, suffices_, -⟩ := (resolved r).1 found
      exact ⟨allowed, m.asset, mem, m.score, score, suffices_⟩
    · rintro ⟨allowed, a, declared, s, score', suffices_⟩
      have above := le_trans suffices_ (score_le_first distinct first declared score')
      exact ⟨_, (resolved _).2 ⟨allowed, above, rfl⟩, kind⟩
    · intro r found
      obtain ⟨-, -, rfl⟩ := (resolved r).1 found
      refine ⟨rest.map fun n => n.asset, ranking, ?_⟩
      obtain ⟨k, hk⟩ := Int.eq_ofNat_of_zero_le (show 0 ≤ config.maxSuggestions - 1 by omega)
      have limit : limited config.maxSuggestions (m :: rest) = m :: rest.take k := by
        unfold limited
        rw [if_pos (by omega), show config.maxSuggestions.toNat = k + 1 by omega, List.take_succ_cons]
      show ((limited config.maxSuggestions (m :: rest)).drop 1).map (·.asset) = _
      rw [limit, hk, Int.toNat_natCast, List.drop_one, List.tail_cons, List.map_take]

/-- One letter too many: the right asset comes first. -/
theorem usdcc_resolved_by_similarity :
    (Catalog.standard.HasDistinctSymbols ∧ 1 ≤ ({} : Config).maxSuggestions ∧
      normalizeSymbol "usdcc" ≠ "" ∧ Catalog.standard.IsUnlisted (normalizeSymbol "usdcc")) ∧
    ∃ r others, resolve {} .standard "usdcc" = .ok r ∧ r.asset.symbol = "USDC" ∧
      IsRanking .standard (Text.lower (normalizeSymbol "usdcc")) (r.asset :: others) ∧
      r.alternatives = others.take 4 := by
  have room : 1 ≤ ({} : Config).maxSuggestions := by decide
  have nonempty : normalizeSymbol "usdcc" ≠ "" := by decide +kernel
  have unlisted : Catalog.standard.IsUnlisted (normalizeSymbol "usdcc") :=
    ⟨by decide +kernel, by decide +kernel⟩
  refine ⟨⟨standard_hasDistinctSymbols, room, nonempty, unlisted⟩, ?_⟩
  have answer : (resolve {} .standard "usdcc").toOption.any fun r => r.asset.symbol = "USDC" := by
    decide +kernel
  obtain ⟨r, found, symbol⟩ := exists_eq_ok_of_any answer
  obtain ⟨others, ranking, next⟩ :=
    (resolved_by_similarity {} standard_hasDistinctSymbols room nonempty unlisted).2 r found
  exact ⟨r, others, found, of_decide_eq_true symbol, ranking, next⟩

end Teller.Asset
