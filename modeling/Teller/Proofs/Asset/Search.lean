import Teller.Asset.Search
import Teller.Proofs.Asset.Similarity

/-!
# The best assets of a search

A search gives the assets that pass its filters, ranked by popularity, where that is preferred, and
by market capitalisation, as many as its limit allows. Two zeros are taken for nothing at all. A
limit of zero counts as no limit. And a market capitalisation of zero counts as an unknown one,
which reaches no bound: even where the bound is zero the asset is left out.

    Query.Passes                 what passes the filters of a search
    Query.Overlooks              what passes them, but is overlooked
    NoLower, Before              the order of the ranking
    IsTop                        the best assets, as many as there may be
    accepts_iff                  what is accepted passes and is not overlooked
    found_ordered                the assets that are accepted are ranked
    take_found_noLower_iff       when the first of them are ranked no lower than another one
    isTop_take_iff               when the first of them are the best ones
    isTop_search_iff             when a search gives the best assets
-/

namespace Teller.Asset

open Listing Number

variable {config : Config} {catalog : Catalog} {q : Query} {a b z : Asset} {n : Nat}

/-! ## What ought to be given -/

/-- The asset passes every filter of the search. Empty texts filter nothing. -/
structure Query.Passes (q : Query) (a : Asset) : Prop where
  mentioned : ∀ text ∈ q.text, text ≠ "" →
    ∃ name ∈ a.symbol :: a.name :: a.aliases, (Text.lower text).toList <:+: (Text.lower name).toList
  stable : ∀ wanted ∈ q.isStablecoin, a.isStablecoin = wanted
  capitalised : ∀ least ∈ q.leastMarketCap, ∃ cap ∈ a.marketCap, least ≤ cap
  tagged : ∀ category ∈ q.category, category ≠ "" → Text.lower category ∈ a.tags

/-- The asset passes every filter, but one of them is a bound on market capitalisations and the
asset has one of zero. -/
def Query.Overlooks (q : Query) (a : Asset) : Prop :=
  q.Passes a ∧ q.leastMarketCap ≠ none ∧ (a.capitalisation == 0) = true

/-- The first asset is more popular, if that is preferred, or as popular and its market
capitalisation is no less. An unknown market capitalisation counts as zero. -/
def NoLower (config : Config) (a b : Asset) : Prop :=
  (config.preferPopular = true ∧ b.popularity < a.popularity) ∨
    (config.preferPopular = true → a.popularity = b.popularity) ∧ b.capitalisation ≤ a.capitalisation

instance : Decidable (NoLower config a b) := by unfold NoLower; infer_instance

/-- The first asset is ranked no lower, and if the second one is not ranked lower either, the first
one comes first in the catalog. -/
def Before (config : Config) (catalog : Catalog) (a b : Asset) : Prop :=
  NoLower config a b ∧ (NoLower config b a → [a, b].Sublist catalog.declared)

/-- The best `n` assets that pass the filters. -/
structure IsTop (config : Config) (catalog : Catalog) (q : Query) (n : Nat) (tops : List Asset) :
    Prop where
  length_le : tops.length ≤ n
  sound : ∀ a ∈ tops, a ∈ catalog.declared ∧ q.Passes a
  nodup : tops.Nodup
  ordered : tops.Pairwise (Before config catalog)
  complete : ∀ a ∈ catalog.declared, q.Passes a → a ∉ tops → tops.length = n ∧
    ∀ b ∈ tops, NoLower config b a

def Query.upTo (q : Query) (n : Nat) : Query := { q with limit := some n }

def Query.unlimited (q : Query) : Query := { q with limit := none }

/-! ## The filters -/

theorem mentions_iff (a : Asset) (text : String) : mentions a text = true ↔
    ∃ name ∈ a.symbol :: a.name :: a.aliases, (Text.lower text).toList <:+: (Text.lower name).toList := by
  unfold mentions
  rw [List.any_eq_true]
  refine exists_congr fun name => and_congr_right fun _ => ?_
  unfold Text.contains
  rw [Text.occursIn_eq_true_iff]
  simp only [List.IsInfix, List.append_assoc, eq_comm]

/-- A filter that is not given, or given as an empty text, lets every asset pass. -/
theorem all_filter_iff {given : Option String} {p : String → Bool} :
    (given.filter (· ≠ "")).all p = true ↔ ∀ text ∈ given, text ≠ "" → p text = true := by
  cases given with
  | none => simp
  | some text => by_cases empty : text = "" <;> simp [Option.filter, empty]

/-- A market capitalisation reaches a bound if it is no less and not zero. -/
theorem reaches_iff {least : Float} :
    (a.marketCap.any fun cap => cap != 0 && least ≤ cap) = true ↔
      (∃ cap ∈ a.marketCap, least ≤ cap) ∧ ¬(a.capitalisation == 0) = true := by
  unfold capitalisation
  cases a.marketCap with
  | none => exact iff_of_false nofun fun h => nomatch h.1
  | some cap =>
    rw [Option.any_some, Bool.and_eq_true, decide_eq_true_iff, and_comm]
    simp [bne]

/-- What is accepted passes the filters and is not overlooked. -/
theorem accepts_iff : q.accepts a = true ↔ q.Passes a ∧ ¬q.Overlooks a := by
  unfold Query.accepts
  rw [Bool.and_eq_true, Bool.and_eq_true, Bool.and_eq_true, all_filter_iff, all_filter_iff]
  simp only [mentions_iff, Option.all_eq_true, reaches_iff, beq_iff_eq, List.contains_iff_mem]
  constructor
  · rintro ⟨⟨⟨mentioned, stable⟩, reached⟩, tagged⟩
    refine ⟨⟨mentioned, stable, fun least given => (reached least given).1, tagged⟩, ?_⟩
    rintro ⟨-, bounded, zero⟩
    obtain ⟨least, given⟩ := Option.ne_none_iff_exists'.1 bounded
    exact (reached least given).2 zero
  · rintro ⟨⟨mentioned, stable, capitalised, tagged⟩, seen⟩
    have nonzero (least : Float) (given : q.leastMarketCap = some least) :
        ¬(a.capitalisation == 0) = true :=
      fun zero => seen ⟨⟨mentioned, stable, capitalised, tagged⟩,
        Option.ne_none_iff_exists'.2 ⟨least, given⟩, zero⟩
    exact ⟨⟨⟨mentioned, stable⟩, fun least given => ⟨capitalised least given, nonzero least given⟩⟩,
      tagged⟩

/-! ## The ranking -/

/-- Assets by popularity, if that is preferred, then by market capitalisation, the greatest first.
-/
def ranking (config : Config) : Asset → Asset → Ordering :=
  if config.preferPopular then compareLex (compareOn fun a => -a.popularity) (descending capitalisation)
  else descending capitalisation

instance : Std.TransCmp (ranking config) := by
  unfold ranking
  split
  · exact Std.instTransCmpCompareLex
  · infer_instance

theorem better_iff (ha : a.capitalisation.isNaN = false) (hb : b.capitalisation.isNaN = false) :
    better config a b = true ↔ ranking config a b = .lt := by
  have capital : b.capitalisation < a.capitalisation ↔ descending capitalisation a b = .lt := lt_iff hb ha
  unfold better ranking
  split
  · unfold compareLex compareOn
    rw [Bool.or_eq_true, Bool.and_eq_true, decide_eq_true_iff, decide_eq_true_iff, beq_iff_eq, capital,
      Ordering.then_eq_lt, Int.compare_eq_lt, Int.compare_eq_eq, Int.neg_lt_neg_iff, Int.neg_inj]
  · rw [decide_eq_true_iff, capital]

/-- An asset is ranked no lower than another one if that is not better. -/
theorem noLower_iff (ha : a.capitalisation.isNaN = false) (hb : b.capitalisation.isNaN = false) :
    NoLower config a b ↔ better config b a = false := by
  have capital : a.capitalisation < b.capitalisation ↔ ¬b.capitalisation ≤ a.capitalisation :=
    ⟨fun less le => not_lt_of_le le less, fun less => by_contra fun h => less (le_of_not_lt hb ha h)⟩
  unfold NoLower better
  cases config.preferPopular with
  | true => by_cases cap : b.capitalisation ≤ a.capitalisation <;> simp [capital, cap] <;> omega
  | false => simp [capital]

theorem NoLower.trans (h : NoLower config a b) (h' : NoLower config b z) : NoLower config a z := by
  rcases h with ⟨popular, more⟩ | ⟨same, cap⟩
  · rcases h' with ⟨-, more'⟩ | ⟨same', -⟩
    · exact .inl ⟨popular, Int.lt_trans more' more⟩
    · exact .inl ⟨popular, same' popular ▸ more⟩
  · rcases h' with ⟨popular, more'⟩ | ⟨same', cap'⟩
    · exact .inl ⟨popular, same popular ▸ more'⟩
    · exact .inr ⟨fun popular => (same popular).trans (same' popular), le_trans cap' cap⟩

/-! ## The assets that are found -/

theorem mem_found_iff (distinct : catalog.HasDistinctSymbols) :
    a ∈ found config catalog q ↔ a ∈ catalog.declared ∧ q.accepts a = true := by
  unfold found
  rw [mem_ranked, List.mem_filter, assets_eq_declared distinct]

theorem nodup_found (config : Config) (q : Query) (distinct : catalog.HasDistinctSymbols) :
    (found config catalog q).Nodup := by
  unfold found
  rw [(ranked_perm _ _).nodup_iff, assets_eq_declared distinct]
  exact (List.Nodup.of_map _ distinct).filter _

/-- What is found has a number for a market capitalisation. -/
def Query.HasNumbers (q : Query) (catalog : Catalog) : Prop :=
  ∀ a ∈ catalog.declared, q.accepts a = true → a.capitalisation.isNaN = false

theorem ranksBy_accepted (distinct : catalog.HasDistinctSymbols) (numbers : q.HasNumbers catalog) :
    RanksBy (ranking config) (better config) (catalog.assets.filter q.accepts) := by
  rw [assets_eq_declared distinct]
  intro a ha b hb
  obtain ⟨declared, accepted⟩ := List.mem_filter.1 ha
  obtain ⟨declared', accepted'⟩ := List.mem_filter.1 hb
  exact better_iff (numbers a declared accepted) (numbers b declared' accepted')

theorem before_of_precedes (distinct : catalog.HasDistinctSymbols) (numbers : q.HasNumbers catalog)
    (ha : a ∈ found config catalog q) (hb : b ∈ found config catalog q)
    (h : Precedes (better config) (catalog.assets.filter q.accepts) a b) : Before config catalog a b := by
  obtain ⟨declared, accepted⟩ := (mem_found_iff distinct).1 ha
  obtain ⟨declared', accepted'⟩ := (mem_found_iff distinct).1 hb
  have number := numbers a declared accepted
  have number' := numbers b declared' accepted'
  have ranks : RanksBy (ranking config) (better config) (catalog.assets.filter q.accepts) :=
    ranksBy_accepted distinct numbers
  refine ⟨(noLower_iff number number').2
    (ranks.not_better_of_precedes (mem_ranked.1 ha) (mem_ranked.1 hb) h), fun no_lower => ?_⟩
  rcases h with better | ⟨-, earlier⟩
  · rw [noLower_iff number' number, better] at no_lower
    cases no_lower
  · rw [assets_eq_declared distinct] at earlier
    exact earlier.trans List.filter_sublist

/-- What is found is ranked. -/
theorem found_ordered (config : Config) (distinct : catalog.HasDistinctSymbols)
    (numbers : q.HasNumbers catalog) :
    (found config catalog q).Pairwise (Before config catalog) :=
  (ranked_pairwise (ranksBy_accepted distinct numbers)).imp_of_mem (before_of_precedes distinct numbers)

/-! ## The best assets -/

/-- The first `n` assets that are found are there and are all ranked no lower than some other asset
exactly if `n` of those that are found are. -/
theorem take_found_noLower_iff (distinct : catalog.HasDistinctSymbols)
    (numbers : q.HasNumbers catalog) (z : Asset) :
    ((found config catalog q).take n).length = n ∧
    (∀ b ∈ (found config catalog q).take n, NoLower config b z) ↔
      n ≤ (found config catalog q).countP fun a => NoLower config a z := by
  have down : (found config catalog q).Pairwise fun a b => decide (NoLower config b z) = true →
      decide (NoLower config a z) = true := by
    refine (found_ordered config distinct numbers).imp fun before lower => ?_
    rw [decide_eq_true_iff] at lower ⊢
    exact before.1.trans lower
  simpa only [decide_eq_true_iff] using take_all_iff (n := n) down

/-- The first assets that are found are the best ones exactly if as many are ranked no lower than
any that is overlooked. -/
theorem isTop_take_iff (distinct : catalog.HasDistinctSymbols) (numbers : q.HasNumbers catalog) :
    IsTop config catalog q n ((found config catalog q).take n) ↔
      ∀ z ∈ catalog.declared, q.Overlooks z →
      n ≤ (found config catalog q).countP fun a => NoLower config a z := by
  constructor
  · intro top z declared overlooked
    refine (take_found_noLower_iff distinct numbers z).1
      (top.complete z declared overlooked.1 fun given => ?_)
    exact (accepts_iff.1 ((mem_found_iff distinct).1 (List.mem_of_mem_take given)).2).2 overlooked
  · intro outranked
    have accepted : ∀ a ∈ (found config catalog q).take n, a ∈ catalog.declared ∧ q.accepts a = true :=
      fun a given => (mem_found_iff distinct).1 (List.mem_of_mem_take given)
    constructor
    case length_le => exact List.length_take_le _ _
    case sound => exact fun a given => (accepted a given).imp_right fun ok => (accepts_iff.1 ok).1
    case nodup => exact (nodup_found config q distinct).sublist (List.take_sublist _ _)
    case ordered => exact (found_ordered config distinct numbers).sublist (List.take_sublist _ _)
    case complete =>
      intro a declared passes left_out
      -- it was overlooked, or found and cut off
      by_cases overlooked : q.Overlooks a
      · exact (take_found_noLower_iff distinct numbers a).2 (outranked a declared overlooked)
      · have candidate : a ∈ found config catalog q :=
          (mem_found_iff distinct).2 ⟨declared, accepts_iff.2 ⟨passes, overlooked⟩⟩
        obtain ⟨full, after⟩ :=
          precedes_of_cut (ranksBy_accepted distinct numbers) (mem_ranked.1 candidate) left_out
        exact ⟨full, fun b hb =>
          (before_of_precedes distinct numbers (List.mem_of_mem_take hb) candidate (after b hb)).1⟩

/-- A limit above zero leaves as many of the assets that are found. -/
theorem search_upTo (config : Config) (catalog : Catalog) (q : Query) (nonzero : n ≠ 0) :
    search config catalog (q.upTo n) = (found config catalog q).take n := by
  have given : (some (n : Int)).filter (· ≠ 0) = some (n : Int) :=
    Option.filter_some_pos (decide_eq_true (Int.natCast_ne_zero.2 nonzero))
  show limited (((some (n : Int)).filter (· ≠ 0)).getD config.maxSuggestions) (found config catalog q) = _
  rw [given, Option.getD_some, limited, if_pos (Int.natCast_nonneg n), Int.toNat_natCast]

/-- A limit of zero counts as none. -/
theorem search_upTo_zero (config : Config) (catalog : Catalog) (q : Query) :
    search config catalog (q.upTo 0) = search config catalog q.unlimited := rfl

/-- A search with a limit of `n` gives the best `n` assets that pass its filters, and one more
begins with the same ones, exactly if the limit is not zero, or nothing is found without one, and
`n` of the assets that are found are ranked no lower than any that is overlooked. -/
theorem isTop_search_iff (config : Config) (distinct : catalog.HasDistinctSymbols)
    (numbers : q.HasNumbers catalog) (n : Nat) :
    (IsTop config catalog q n (search config catalog (q.upTo n)) ∧
      search config catalog (q.upTo n) <+: search config catalog (q.upTo (n + 1))) ↔
    (n ≠ 0 ∨ search config catalog q.unlimited = []) ∧
      ∀ z ∈ catalog.declared, q.Overlooks z →
      n ≤ (found config catalog q).countP fun a => NoLower config a z := by
  by_cases zero : n = 0
  · subst zero
    rw [search_upTo_zero]
    constructor
    · rintro ⟨top, -⟩
      have nothing := List.eq_nil_of_length_eq_zero (Nat.le_zero.1 top.length_le)
      exact ⟨.inr nothing, fun _ _ _ => Nat.zero_le _⟩
    · rintro ⟨nonzero | nothing, outranked⟩
      · exact absurd rfl nonzero
      · rw [nothing]
        exact ⟨(isTop_take_iff distinct numbers).2 outranked, List.nil_prefix⟩
  · have first : (found config catalog q).take n <+: (found config catalog q).take (n + 1) :=
      List.take_prefix_take_left (Nat.le_succ n)
    rw [search_upTo config catalog q zero, search_upTo config catalog q (Nat.succ_ne_zero n),
      isTop_take_iff distinct numbers, and_iff_left first, and_iff_right (.inl zero)]

/-- An asset of which little more than its rank is known. -/
def coin (symbol : String) (popularity : Int) (marketCap : Option Float) : Asset :=
  { symbol, name := "Coin", decimals := 6, popularity, marketCap }

/-- Two coins that are ranked alike, one that is ranked higher, one that is worth nothing and one of
unknown worth. -/
def coins : Catalog :=
  ⟨[coin "TIE" 5 (some 10), coin "TOP" 9 (some 10), coin "TWIN" 5 (some 10), coin "NEW" 1 (some 0),
    coin "DARK" 7 none]⟩

/-- Whatever has a market capitalisation that is not negative. -/
def worthy : Query := { leastMarketCap := some 0 }

theorem coins_hasDistinctSymbols : coins.HasDistinctSymbols := by
  unfold Catalog.HasDistinctSymbols
  decide

theorem worthy_hasNumbers : worthy.HasNumbers coins := by
  unfold Query.HasNumbers
  decide +kernel

/-- Of the two coins that are ranked alike the first one is given where there is room for one of
them. -/
theorem coins_isTop : coins.HasDistinctSymbols ∧ worthy.HasNumbers coins ∧
    (search {} coins (worthy.upTo 2)).map (·.symbol) = ["TOP", "TIE"] ∧
    IsTop {} coins worthy 2 (search {} coins (worthy.upTo 2)) ∧
    search {} coins (worthy.upTo 2) <+: search {} coins (worthy.upTo 3) := by
  have outranked : ∀ z ∈ coins.declared, z.marketCap.isSome = true → (z.capitalisation == 0) = true →
      2 ≤ (found {} coins worthy).countP fun a => NoLower {} a z := by
    decide +kernel
  refine ⟨coins_hasDistinctSymbols, worthy_hasNumbers, by decide +kernel, ?_⟩
  refine (isTop_search_iff {} coins_hasDistinctSymbols worthy_hasNumbers 2).2 ⟨.inl (by decide), ?_⟩
  rintro z declared ⟨passes, -, zero⟩
  obtain ⟨cap, known, -⟩ := passes.capitalised 0 rfl
  exact outranked z declared (Option.isSome_of_mem known) zero

/-- With a limit of zero three coins are given, and with a limit of four the coin that is worth
nothing is left out, though it passes. -/
theorem coins_not_isTop : ¬IsTop {} coins worthy 0 (search {} coins (worthy.upTo 0)) ∧
    ¬IsTop {} coins worthy 4 (search {} coins (worthy.upTo 4)) := by
  constructor
  · intro top
    exact absurd top.length_le (by decide +kernel)
  · intro top
    have new : coin "NEW" 1 (some 0) ∈ coins.declared := by simp [coins]
    have passes : worthy.Passes (coin "NEW" 1 (some 0)) := by
      refine ⟨nofun, nofun, fun least given => ?_, nofun⟩
      cases given
      exact ⟨0, rfl, by decide +kernel⟩
    have given : (search {} coins (worthy.upTo 4)).map (·.symbol) = ["TOP", "TIE", "TWIN"] := by
      decide +kernel
    have left_out : coin "NEW" 1 (some 0) ∉ search {} coins (worthy.upTo 4) := by
      intro mem
      have symbol := List.mem_map_of_mem (f := (·.symbol)) mem
      rw [given] at symbol
      exact absurd symbol (by decide)
    have full := (top.complete _ new passes left_out).1
    exact absurd full (by decide +kernel)

end Teller.Asset
