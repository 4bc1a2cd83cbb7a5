import Mathlib.Data.List.Nodup
import Teller.Asset.Resolution

/-!
# Assets under their own symbols

References are compared in letters and digits of ASCII, but the catalog is kept under symbols in
upper case with all their characters. So an asset is found under its own symbol if this has no other
characters. With any other character it is not, even where another asset is found in its place.

    normalizeSymbol_eq_upper_iff     when the two forms of a symbol agree
    Table.get?_ofList_eq_some_iff    what a table of different names answers
    Table.ofList_eq_self             and what it holds
    resolve_cases                    the three ways to resolve a reference
    resolve_symbol                   a symbol of letters and digits is resolved
    found_by_symbol_iff              no other symbol is, not as itself
-/

namespace Teller

/-! ## Symbols in upper case -/

namespace Asset

variable {cs : List Char} {s : String}

/-- A symbol of letters and digits of ASCII. -/
def IsPlain (symbol : String) : Prop := ∀ c ∈ symbol.toList, c.isAlphanum = true

theorem upperOf_ne_nil (c : Char) : Text.upperOf c ≠ [] := by
  have expansions : ∀ entry ∈ Text.upperExpansions, entry.2 ≠ [] := by decide
  unfold Text.upperOf
  split
  · exact List.cons_ne_nil _ _
  · split
    · next codes found =>
      obtain ⟨before, after, entries, -⟩ := List.lookup_eq_some_iff.1 found
      have mem : (c.toNat, codes) ∈ Text.upperExpansions :=
        entries ▸ List.mem_append_right _ List.mem_cons_self
      simpa using expansions _ mem
    · exact List.cons_ne_nil _ _

/-- Upper case never shortens a text. -/
theorem length_le_length_upper (cs : List Char) : cs.length ≤ (cs.flatMap Text.upperOf).length := by
  induction cs with
  | nil => exact Nat.le_refl 0
  | cons c cs ih =>
    have := List.length_pos_of_ne_nil (upperOf_ne_nil c)
    rw [List.flatMap_cons, List.length_append, List.length_cons]
    omega

theorem flatMap_upperOf_of_ascii (h : ∀ c ∈ cs, c.toNat < 128) :
    cs.flatMap Text.upperOf = cs.map Char.toUpper := by
  induction cs with
  | nil => rfl
  | cons c cs ih =>
    have one : Text.upperOf c = [c.toUpper] := if_pos (h c List.mem_cons_self)
    rw [List.flatMap_cons, one, ih fun d hd => h d (List.mem_cons_of_mem _ hd)]
    rfl

/-- In upper case a symbol is in normalized form exactly if it has letters and digits of ASCII only:
what normalization drops upper case keeps. -/
theorem normalizeSymbol_eq_upper_iff : normalizeSymbol s = Text.upper s ↔ IsPlain s := by
  unfold normalizeSymbol Text.upper
  rw [String.ofList_inj]
  constructor
  · intro same
    have kept : (s.toList.filter Char.isAlphanum).length = s.toList.length := by
      have lengths := congrArg List.length same
      rw [List.length_map] at lengths
      refine Nat.le_antisymm (List.length_filter_le ..) ?_
      rw [lengths]
      exact length_le_length_upper s.toList
    exact List.length_filter_eq_length_iff.1 kept
  · intro plain
    rw [List.filter_eq_self.2 plain,
      flatMap_upperOf_of_ascii fun c hc => Text.toNat_lt_of_isAlphanum (plain c hc)]

end Asset

/-! ## Tables of different names -/

namespace Table

variable {α : Type}

/-- With every name entered once, a table answers what was entered. -/
theorem get?_ofList_eq_some_iff {entries : List (String × α)} {name : String} {value : α}
    (distinct : (entries.map (·.1)).Nodup) :
    get? (ofList entries) name = some value ↔ (name, value) ∈ entries := by
  refine ⟨fun found => mem_ofList (mem_of_get?_eq_some found), fun mem => ?_⟩
  obtain ⟨other, found⟩ := Option.isSome_iff_exists.1 (isSome_get?_ofList mem)
  have mem' := mem_ofList (mem_of_get?_eq_some found)
  cases List.inj_on_of_nodup_map distinct mem mem' rfl
  exact found

theorem put_of_not_mem {name : String} {t : Table α} (value : α) (new : name ∉ t.map (·.1)) :
    put name value t = t ++ [(name, value)] := by
  induction t with
  | nil => rfl
  | cons e t ih =>
    rw [List.map_cons, List.mem_cons, not_or] at new
    unfold put
    rw [if_neg (Ne.symm new.1), ih new.2]
    rfl

/-- With every name entered once, a table holds what was entered. -/
theorem ofList_eq_self {entries : List (String × α)} (distinct : (entries.map (·.1)).Nodup) :
    ofList entries = entries := by
  have entered (t : Table α) (h : ((t ++ entries).map (·.1)).Nodup) :
      entries.foldl (fun t entry => put entry.1 entry.2 t) t = t ++ entries := by
    clear distinct
    induction entries generalizing t with
    | nil => rw [List.foldl_nil, List.append_nil]
    | cons e entries ih =>
      have new : e.1 ∉ t.map (·.1) := by
        rw [List.map_append, List.map_cons, List.nodup_append] at h
        exact fun old => h.2.2 _ old _ List.mem_cons_self rfl
      have put_e := put_of_not_mem e.2 new
      rw [List.append_cons] at h ⊢
      rw [← put_e] at h ⊢
      exact ih _ h
  exact entered [] distinct

end Table

namespace Asset

variable {config : Config} {catalog : Catalog} {raw : String} {r : Resolution} {a : Asset}

/-! ## Ways to resolve a reference -/

/-- Scores are for similarity, never for exact matches. -/
theorem kind_of_mem_offers {needle : String} {score : Float} {kind : MatchKind}
    (h : (score, kind) ∈ offers needle a) : kind = .fuzzy ∨ kind = .partly := by
  unfold offers at h
  simp only [List.mem_append, List.mem_ite_nil_right, List.mem_singleton, Prod.mk.injEq] at h
  rcases h with (⟨-, -, rfl⟩ | ⟨-, -, rfl⟩) | ⟨-, -, rfl⟩
  · exact .inl rfl
  · exact .inl rfl
  · exact .inr rfl

/-- A scored asset is one that is listed. -/
theorem of_mem_fuzzyMatches {reference : String} {m : Scored} (h : m ∈ fuzzyMatches catalog reference) :
    m.asset ∈ catalog.assets ∧ m.kind ≠ .exact := by
  obtain ⟨asset, listed, scored⟩ :=
    List.mem_filterMap.1 ((Listing.ranked_perm _ _).mem_iff.1 h)
  obtain ⟨⟨score, kind⟩, best, rfl⟩ := Option.map_eq_some_iff.1 scored
  refine ⟨listed, ?_⟩
  rcases kind_of_mem_offers (Listing.mem_of_greatest? best) with rfl | rfl <;> exact nofun

theorem of_resolveFuzzily? {matched : List Scored} (h : resolveFuzzily? config matched = some r) :
    ∃ m ∈ matched, r.asset = m.asset ∧ r.kind = m.kind := by
  unfold resolveFuzzily? at h
  split at h
  · cases h
  · next best others =>
    split at h
    · cases h
      exact ⟨best, List.mem_cons_self, rfl, rfl⟩
    · cases h

/-- A reference is resolved by a symbol, else by a further name, else by similarity. -/
theorem resolve_cases (h : resolve config catalog raw = .ok r) :
    (catalog.table.get? (normalizeSymbol raw) = some r.asset ∧
      r = { asset := r.asset, confidence := 1, kind := .exact }) ∨
    (catalog.ofAlias? (normalizeSymbol raw) = some r.asset ∧
      r = { asset := r.asset, confidence := 0.95, kind := .otherName }) ∨
    r.asset ∈ catalog.assets ∧ r.kind ≠ .exact := by
  unfold resolve at h
  dsimp only at h
  split at h
  · cases h
  · split at h
    · next asset found =>
      cases h
      exact .inl ⟨found, rfl⟩
    · split at h
      · next asset found =>
        cases h
        exact .inr (.inl ⟨found, rfl⟩)
      · split at h
        · next answer found =>
          cases h
          split at found
          · obtain ⟨m, mem, asset, kind⟩ := of_resolveFuzzily? found
            rw [asset, kind]
            exact .inr (.inr (of_mem_fuzzyMatches mem))
          · cases found
        · cases h

theorem mem_declared_of_mem_table {symbol : String} (h : (symbol, a) ∈ catalog.table) :
    a ∈ catalog.declared ∧ Text.upper a.symbol = symbol := by
  obtain ⟨other, declared, entry⟩ := List.mem_map.1 (Table.mem_ofList h)
  cases entry
  exact ⟨declared, rfl⟩

/-- What a reference is resolved to is listed in the catalog. -/
theorem mem_declared_of_resolve (h : resolve config catalog raw = .ok r) :
    r.asset ∈ catalog.declared := by
  rcases resolve_cases h with ⟨found, -⟩ | ⟨found, -⟩ | ⟨listed, -⟩
  · exact (mem_declared_of_mem_table (Table.mem_of_get?_eq_some found)).1
  · exact List.mem_of_find?_eq_some found
  · obtain ⟨entry, mem, same⟩ := List.mem_map.1 listed
    exact same ▸ (mem_declared_of_mem_table mem).1

/-! ## An asset under its own symbol -/

/-- In upper case every symbol is listed once. -/
def Catalog.HasDistinctSymbols (catalog : Catalog) : Prop :=
  (catalog.declared.map fun a => Text.upper a.symbol).Nodup

/-- In upper case every symbol has a letter or digit of ASCII. -/
def Catalog.HasLetters (catalog : Catalog) : Prop :=
  ∀ a ∈ catalog.declared, (Text.upper a.symbol).toList.any Char.isAlphanum = true

theorem get?_table_eq_some_iff {symbol : String} (distinct : catalog.HasDistinctSymbols) :
    catalog.table.get? symbol = some a ↔ a ∈ catalog.declared ∧ Text.upper a.symbol = symbol := by
  have entries : ((catalog.declared.map fun a => (Text.upper a.symbol, a)).map (·.1)).Nodup := by
    rw [List.map_map]
    exact distinct
  unfold Catalog.table
  rw [Table.get?_ofList_eq_some_iff entries, List.mem_map]
  constructor
  · rintro ⟨other, declared, entry⟩
    cases entry
    exact ⟨declared, rfl⟩
  · rintro ⟨declared, rfl⟩
    exact ⟨a, declared, rfl⟩

/-- A reference in normalized form that is a symbol of the catalog. -/
theorem resolve_of_get? (nonempty : normalizeSymbol raw ≠ "")
    (found : catalog.table.get? (normalizeSymbol raw) = some a) :
    resolve config catalog raw = .ok { asset := a, confidence := 1, kind := .exact } := by
  unfold resolve
  dsimp only
  rw [if_neg (by simpa using nonempty), found]

/-- A symbol of letters and digits is resolved to its own asset. -/
theorem resolve_symbol (distinct : catalog.HasDistinctSymbols) (declared : a ∈ catalog.declared)
    (plain : IsPlain a.symbol) (nonempty : Text.upper a.symbol ≠ "") :
    resolve config catalog a.symbol = .ok { asset := a, confidence := 1, kind := .exact } := by
  have form := normalizeSymbol_eq_upper_iff.2 plain
  refine resolve_of_get? (form ▸ nonempty) ?_
  rw [form]
  exact (get?_table_eq_some_iff distinct).2 ⟨declared, rfl⟩

/-- A symbol that is matched exactly by its own asset is in normalized form. -/
theorem isPlain_of_resolve (distinct : catalog.HasDistinctSymbols)
    (h : resolve config catalog a.symbol = .ok { asset := a, confidence := 1, kind := .exact }) :
    IsPlain a.symbol := by
  rcases resolve_cases h with ⟨found, -⟩ | ⟨-, other⟩ | ⟨-, other⟩
  · exact normalizeSymbol_eq_upper_iff.1 ((get?_table_eq_some_iff distinct).1 found).2.symm
  · exact absurd (congrArg Resolution.kind other) nofun
  · exact absurd rfl other

theorem upper_symbol_ne_empty (lettered : catalog.HasLetters) (declared : a ∈ catalog.declared) :
    Text.upper a.symbol ≠ "" := by
  intro empty
  have letter := lettered a declared
  rw [empty] at letter
  exact absurd letter (by decide)

theorem resolve_symbol_iff (distinct : catalog.HasDistinctSymbols) (lettered : catalog.HasLetters)
    (declared : a ∈ catalog.declared) :
    resolve config catalog a.symbol = .ok { asset := a, confidence := 1, kind := .exact } ↔
      IsPlain a.symbol :=
  ⟨isPlain_of_resolve distinct, fun plain =>
    resolve_symbol distinct declared plain (upper_symbol_ne_empty lettered declared)⟩

/-- An asset is found under its own symbol, as an exact match, exactly if the symbol has letters and
digits of ASCII only. This goes for the assets of the catalog, and for all that references are
resolved to. -/
theorem found_by_symbol_iff (config : Config) (distinct : catalog.HasDistinctSymbols)
    (lettered : catalog.HasLetters) :
    (∀ a ∈ catalog.declared,
      (resolve config catalog a.symbol = .ok { asset := a, confidence := 1, kind := .exact } ↔
        IsPlain a.symbol)) ∧
    ∀ raw r, resolve config catalog raw = .ok r →
      (resolve config catalog r.asset.symbol =
        .ok { asset := r.asset, confidence := 1, kind := .exact } ↔ IsPlain r.asset.symbol) :=
  ⟨fun _ declared => resolve_symbol_iff distinct lettered declared,
    fun _ _ resolved => resolve_symbol_iff distinct lettered (mem_declared_of_resolve resolved)⟩

theorem standard_hasDistinctSymbols : Catalog.standard.HasDistinctSymbols := by
  unfold Catalog.HasDistinctSymbols
  decide

theorem standard_isPlain : ∀ a ∈ Catalog.standard.declared, IsPlain a.symbol := by
  have table : ∀ a ∈ Catalog.standard.declared, a.symbol.toList.all Char.isAlphanum = true := by
    decide
  exact fun a declared => List.all_eq_true.1 (table a declared)

theorem standard_hasLetters : Catalog.standard.HasLetters := by
  unfold Catalog.HasLetters
  decide

/-- All assets of the standard catalog are found under their symbols. -/
theorem standard_found_by_symbol :
    Catalog.standard.HasDistinctSymbols ∧ Catalog.standard.HasLetters ∧
    ∀ a ∈ Catalog.standard.declared,
      resolve {} .standard a.symbol = .ok { asset := a, confidence := 1, kind := .exact } := by
  refine ⟨standard_hasDistinctSymbols, standard_hasLetters, fun a declared => ?_⟩
  exact ((found_by_symbol_iff {} standard_hasDistinctSymbols standard_hasLetters).1 a declared).2
    (standard_isPlain a declared)

/-- Two coins whose symbols differ by a point only. -/
def Catalog.bridged : Catalog := ⟨[
  { symbol := "USDC.e", name := "Bridged USD Coin", decimals := 6, aliases := ["bridged-usdc"] },
  { symbol := "USDCE", name := "Euro Dollar Coin", decimals := 6 }]⟩

/-- The symbol with the point is resolved to the other coin, though a further name leads to the
right one. -/
theorem bridged_not_found :
    Catalog.bridged.HasDistinctSymbols ∧ Catalog.bridged.HasLetters ∧
    ∃ a ∈ Catalog.bridged.declared, ∃ b ∈ Catalog.bridged.declared, a.symbol ≠ b.symbol ∧
      resolve {} .bridged a.symbol = .ok { asset := b, confidence := 1, kind := .exact } ∧
      resolve {} .bridged "bridged-usdc" =
        .ok { asset := a, confidence := 0.95, kind := .otherName } := by
  refine ⟨?_, ?_, _, List.mem_cons_self, _, List.mem_cons_of_mem _ List.mem_cons_self, ?_, ?_, ?_⟩
  · unfold Catalog.HasDistinctSymbols
    decide +kernel
  · unfold Catalog.HasLetters
    decide +kernel
  · decide
  · rfl
  · rfl

end Asset

end Teller
