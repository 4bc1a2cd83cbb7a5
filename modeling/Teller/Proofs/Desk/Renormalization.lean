import Mathlib.Data.List.Forall2
import Teller.Proofs.Amount.Texts
import Teller.Proofs.Asset.Symbols
import Teller.Proofs.Desk.Choosing

/-!
# Normalization done twice

Normalization gives an entity a new normalized text and leaves the rest of it alone. It reads that
text of tokens and protocols again when it is done twice. But a symbol of the standard catalog and
the identifier of a venue stand for themselves, and in ASCII a text that stands for nothing does so
in any case. An amount is read as it was typed, with the balance of the first token, whose symbol is
the same again. So tokens, protocols and amounts stay as they are.

    normalizeSymbol_upper       references are compared in any case, in ASCII
    settles_symbolOf            the symbol that a text stands for stands for itself
    settles_venueOf             so does the identifier of a venue
    firstToken?_normalize       amounts are shares of the same balance
    normalize_twice             tokens, protocols and amounts stay as they are
-/

namespace Teller

/-! ## Upper and lower case in ASCII -/

namespace Text

variable {f : String → String} {letter : Char → Char} {s : String}

def IsAscii (s : String) : Prop := ∀ c ∈ s.toList, c.toNat < 128

/-- A text is replaced by one that stays, and that is not empty if the text is not. -/
structure Settles (f : String → String) (s : String) : Prop where
  again : f (f s) = f s
  eq_empty : f s = "" → s = ""

/-- A change of case: one character after the other in ASCII, each of which then stays as it is. -/
structure IsCase (f : String → String) (letter : Char → Char) : Prop where
  eq_map {s : String} (h : IsAscii s) : f s = String.ofList (s.toList.map letter)
  again {c : Char} (h : c.toNat < 128) : (letter c).toNat < 128 ∧ letter (letter c) = letter c

/-- In ASCII a change of case is made once. -/
theorem IsCase.settles (h : IsCase f letter) (ascii : IsAscii s) : Settles f s where
  again := by
    have ascii' : IsAscii (f s) := by
      intro c hc
      rw [h.eq_map ascii, String.toList_ofList] at hc
      obtain ⟨b, hb, rfl⟩ := List.mem_map.1 hc
      exact (h.again (ascii b hb)).1
    rw [h.eq_map ascii', h.eq_map ascii, String.toList_ofList, List.map_map]
    exact congrArg String.ofList (List.map_congr_left fun c hc => (h.again (ascii c hc)).2)
  eq_empty empty := by
    rw [h.eq_map ascii] at empty
    have nothing : s.toList.map letter = [] := String.ofList_inj.1 empty
    exact String.toList_eq_nil_iff.1 (List.map_eq_nil_iff.1 nothing)

theorem isCase_upper : IsCase upper Char.toUpper where
  eq_map h := by rw [upper, Asset.flatMap_upperOf_of_ascii h]
  again h := by
    apply of_ascii_table h
    decide +kernel

theorem isCase_lower : IsCase lower Char.toLower where
  eq_map h := by rw [lower, lowerFrom_eq_map h]
  again h := by
    apply of_ascii_table h
    decide +kernel

theorem upper_empty : upper "" = "" := by
  decide +kernel

theorem isAlphanum_toUpper {c : Char} (ascii : c.toNat < 128) :
    c.toUpper.isAlphanum = c.isAlphanum := by
  apply of_ascii_table ascii
  decide +kernel

end Text

open Text (IsAscii Settles isCase_upper isCase_lower)

/-- In ASCII references are compared in any case. -/
theorem Asset.normalizeSymbol_upper {s : String} (h : IsAscii s) :
    normalizeSymbol (Text.upper s) = normalizeSymbol s := by
  have kept : s.toList.filter (Char.isAlphanum ∘ Char.toUpper) = s.toList.filter Char.isAlphanum :=
    List.filter_congr fun c hc => Text.isAlphanum_toUpper (h c hc)
  unfold normalizeSymbol
  rw [isCase_upper.eq_map h, String.toList_ofList, List.filter_map, kept, List.map_map]
  exact congrArg String.ofList (List.map_congr_left fun c hc =>
    (isCase_upper.again (h c (List.mem_of_mem_filter hc))).2)

/-- A reference is resolved by its letters and digits. -/
theorem Asset.resolve_congr (config : Config) (catalog : Catalog) {raw raw' : String}
    (same : normalizeSymbol raw = normalizeSymbol raw') :
    resolve config catalog raw = resolve config catalog raw' := by
  unfold resolve
  rw [same]

/-! ## Entities of the same span -/

/-- Entities that may differ in their normalized texts only. -/
structure Entity.SameSpan (e e' : Entity) : Prop where
  kind : e'.kind = e.kind
  value : e'.value = e.value
  confidence : e'.confidence = e.confidence

/-- The text of a token or protocol is in ASCII, and an amount has been typed. -/
structure Entity.IsLegible (e : Entity) : Prop where
  ascii : e.kind = .token ∨ e.kind = .protocol → IsAscii e.text
  typed : e.kind = .amount → e.value ≠ ""

namespace Desk

theorem text_with_normalized (e : Entity) (text : String) :
    { e with normalized := text : Entity }.text = if text.isEmpty then e.value else text := rfl

/-- The text of an entity is settled in its normalized form. -/
theorem text_of_settles {f : String → String} {e : Entity} (h : Settles f e.text) :
    f { e with normalized := f e.text : Entity }.text = f e.text := by
  rw [text_with_normalized]
  split
  · next empty =>
    have nothing : e.text = "" := h.eq_empty (String.isEmpty_iff.1 empty)
    have untyped : e.value = e.text := by
      unfold Entity.text at nothing ⊢
      split at nothing
      · next none => rw [if_pos none]
      · next some => exact absurd (String.isEmpty_iff.2 nothing) some
    rw [untyped]
  · exact h.again

/-! ## Tokens, protocols and amounts -/

variable {desk : Desk} {s : String} {e : Entity}

/-- The symbol that a text stands for, or the text in upper case. -/
def symbolOf (desk : Desk) (s : String) : String :=
  match Asset.resolve desk.assets desk.catalog s with
  | .ok r => r.asset.symbol
  | .error _ => Text.upper s

/-- The identifier of the venue that a text stands for, or the text in lower case. -/
def venueOf (s : String) : String :=
  match Venue.resolve? s with
  | some v => v.id
  | none => Text.lower s

theorem tokenText_eq (desk : Desk) (e : Entity) : tokenText desk e = symbolOf desk e.text := by
  unfold tokenText symbolOf
  cases Asset.resolve desk.assets desk.catalog e.text <;> rfl

theorem protocolText_eq (e : Entity) : protocolText e = venueOf e.text := by
  unfold protocolText venueOf
  cases Venue.resolve? e.text <;> rfl

/-- The symbol that a text stands for stands for itself. -/
theorem settles_symbolOf (standard : desk.catalog = .standard) (ascii : IsAscii s) :
    Settles (symbolOf desk) s := by
  cases answer : Asset.resolve desk.assets desk.catalog s with
  | ok r =>
    -- the symbols of the standard catalog are plain, so each is found under itself
    have first : symbolOf desk s = r.asset.symbol := by rw [symbolOf, answer]
    rw [standard] at answer
    have declared := Asset.mem_declared_of_resolve answer
    have nonempty := Asset.upper_symbol_ne_empty Asset.standard_hasLetters declared
    have itself : Asset.resolve desk.assets .standard r.asset.symbol =
        .ok { asset := r.asset, confidence := 1, kind := .exact } :=
      Asset.resolve_symbol Asset.standard_hasDistinctSymbols declared
        (Asset.standard_isPlain _ declared) nonempty
    refine ⟨?_, fun empty => ?_⟩
    · rw [first, symbolOf, standard, itself]
    · rw [first] at empty
      rw [empty] at nonempty
      exact absurd Text.upper_empty nonempty
  | error other =>
    -- in upper case the text is refused like before, not matched by similarity
    have first : symbolOf desk s = Text.upper s := by rw [symbolOf, answer]
    have again := Asset.resolve_congr desk.assets desk.catalog (Asset.normalizeSymbol_upper ascii)
    rw [answer] at again
    have settles := isCase_upper.settles ascii
    refine ⟨?_, fun empty => settles.eq_empty (first.symm.trans empty)⟩
    rw [first, symbolOf, again]
    exact settles.again

theorem resolve?_id (v : Venue) : Venue.resolve? v.id = some v := by
  cases v <;> decide +kernel

/-- The identifier that a text stands for stands for itself. -/
theorem settles_venueOf (ascii : IsAscii s) : Settles venueOf s := by
  cases answer : Venue.resolve? s with
  | some v =>
    have first : venueOf s = v.id := by rw [venueOf, answer]
    refine ⟨?_, fun empty => ?_⟩
    · rw [first, venueOf, resolve?_id]
    · rw [first] at empty
      exact absurd empty (by cases v <;> decide)
  | none =>
    have first : venueOf s = Text.lower s := by rw [venueOf, answer]
    have settles := isCase_lower.settles ascii
    have again : Venue.resolve? (Text.lower s) = Venue.resolve? s := by
      unfold Venue.resolve? Venue.normalizeName
      rw [settles.again]
    refine ⟨?_, fun empty => settles.eq_empty (first.symm.trans empty)⟩
    rw [first, venueOf, again, answer]
    exact settles.again

theorem tokenText_again (standard : desk.catalog = .standard) (ascii : IsAscii e.text) :
    tokenText desk { e with normalized := tokenText desk e } = tokenText desk e := by
  rw [tokenText_eq, tokenText_eq]
  exact text_of_settles (settles_symbolOf standard ascii)

theorem protocolText_again (ascii : IsAscii e.text) :
    protocolText { e with normalized := protocolText e } = protocolText e := by
  rw [protocolText_eq, protocolText_eq]
  exact text_of_settles (settles_venueOf ascii)

section

variable {bases : Option Amount.Bases}

theorem amountText_of_ok {r : Amount.Reading} (typed : e.value ≠ "")
    (parsed : Amount.parse desk.amounts bases (some e.value) = .ok r) :
    amountText desk bases e = r.normalized := by
  unfold amountText
  rw [if_neg (by simpa using typed)]
  dsimp only
  rw [parsed]

theorem amountText_of_error {f : Failure} (typed : e.value ≠ "")
    (refused : Amount.parse desk.amounts bases (some e.value) = .error f) :
    amountText desk bases e = e.normalized := by
  unfold amountText
  rw [if_neg (by simpa using typed)]
  dsimp only
  rw [refused]

/-- An amount is read as it was typed. -/
theorem amountText_again (typed : e.value ≠ "") :
    amountText desk bases { e with normalized := amountText desk bases e } = amountText desk bases e := by
  cases answer : Amount.parse desk.amounts bases (some e.value) with
  | ok r =>
    rw [amountText_of_ok typed answer]
    exact amountText_of_ok (e := { e with normalized := r.normalized }) typed answer
  | error f =>
    rw [amountText_of_error typed answer]
    exact amountText_of_error typed answer

end

theorem normalizedText_of_token (desk : Desk) (bases : Option Amount.Bases) (token : e.kind = .token) :
    normalizedText desk bases e = tokenText desk e := by
  rw [normalizedText, token]

theorem normalizedText_of_protocol (desk : Desk) (bases : Option Amount.Bases)
    (protocol : e.kind = .protocol) : normalizedText desk bases e = protocolText e := by
  rw [normalizedText, protocol]

theorem normalizedText_of_amount (desk : Desk) (bases : Option Amount.Bases) (amount : e.kind = .amount) :
    normalizedText desk bases e = amountText desk bases e := by
  rw [normalizedText, amount]

theorem normalizedText_again (bases : Option Amount.Bases) (standard : desk.catalog = .standard)
    (legible : e.IsLegible) (kind : e.kind = .token ∨ e.kind = .protocol ∨ e.kind = .amount) :
    normalizedText desk bases (normalizeEntity desk bases e) = normalizedText desk bases e := by
  unfold normalizeEntity
  rcases kind with token | protocol | amount
  · rw [normalizedText_of_token desk bases token, normalizedText_of_token desk bases (by exact token)]
    exact tokenText_again standard (legible.ascii (.inl token))
  · rw [normalizedText_of_protocol desk bases protocol,
      normalizedText_of_protocol desk bases (by exact protocol)]
    exact protocolText_again (legible.ascii (.inr protocol))
  · rw [normalizedText_of_amount desk bases amount, normalizedText_of_amount desk bases (by exact amount)]
    exact amountText_again (legible.typed amount)

/-! ## All entities -/

variable {entities : List Entity}

/-- The first token is the same again, and so are what shares are shares of. -/
theorem firstToken?_normalize (account : Option Account) (standard : desk.catalog = .standard)
    (legible : ∀ e ∈ entities, e.IsLegible) :
    firstToken? desk (normalize desk entities account) = firstToken? desk entities := by
  unfold firstToken?
  rw [ofKind_normalize, List.head?_map]
  cases first : (Entity.ofKind .token entities).head? with
  | none => rfl
  | some e =>
    have mem := List.mem_filter.1 (List.mem_of_head? first)
    have token : e.kind = .token := eq_of_beq mem.2
    have ascii := (legible e mem.1).ascii (.inl token)
    rw [Option.map_some, Option.map_some, Option.map_some, normalizeEntity,
      normalizedText_of_token desk _ token, tokenText_again standard ascii]

/-- Normalization changes normalized texts only, and done twice it changes no token, protocol or
amount any further. -/
theorem normalize_twice (desk : Desk) (account : Option Account) {entities : List Entity}
    (standard : desk.catalog = .standard) (legible : ∀ e ∈ entities, e.IsLegible) :
    List.Forall₂ Entity.SameSpan entities (normalize desk entities account) ∧
    List.Forall₂ (fun e e' : Entity => e.kind = .token ∨ e.kind = .protocol ∨ e.kind = .amount → e' = e)
      (normalize desk entities account)
      (normalize desk (normalize desk entities account) account) := by
  constructor
  · unfold normalize
    exact List.forall₂_map_right_iff.2 (List.forall₂_same.2 fun e _ => ⟨rfl, rfl, rfl⟩)
  · have token := firstToken?_normalize account standard legible
    generalize normal : normalize desk entities account = normalized at token ⊢
    unfold normalize at normal ⊢
    dsimp only at normal ⊢
    rw [token, List.forall₂_map_right_iff, List.forall₂_same, ← normal]
    intro e' mem kind
    obtain ⟨e, listed, rfl⟩ := List.mem_map.1 mem
    rw [normalizeEntity, normalizedText_again _ standard (legible e listed) kind]
    rfl

/-- Half of the balance of a token by another name, at a venue in two words, and an unknown token.
-/
def halfAtVenue : List Entity :=
  [{ kind := .token, value := "Ethereum", normalized := "" },
    { kind := .amount, value := "50%", normalized := "" },
    { kind := .protocol, value := "Dragon Swap", normalized := "" },
    { kind := .token, value := "doge", normalized := "" }]

/-- Three of that token. -/
def threeHeld : Account := { balances := [("ETH", "3")] }

theorem halfAtVenue_twice :
    (normalize {} halfAtVenue (some threeHeld)).map (·.normalized) =
      ["ETH", "1.5", "dragonswap", "DOGE"] ∧
    (∀ e ∈ halfAtVenue, e.IsLegible) ∧
    List.Forall₂ Entity.SameSpan halfAtVenue (normalize {} halfAtVenue (some threeHeld)) ∧
    List.Forall₂ (fun e e' : Entity => e.kind = .token ∨ e.kind = .protocol ∨ e.kind = .amount → e' = e)
      (normalize {} halfAtVenue (some threeHeld))
      (normalize {} (normalize {} halfAtVenue (some threeHeld)) (some threeHeld)) := by
  have legible : ∀ e ∈ halfAtVenue, e.IsLegible := by
    have table : ∀ e ∈ halfAtVenue,
        (e.text.toList.all fun c => c.toNat < 128) = true ∧ e.value ≠ "" := by
      decide +kernel
    exact fun e mem => ⟨fun _ c hc => of_decide_eq_true (List.all_eq_true.1 (table e mem).1 c hc),
      fun _ => (table e mem).2⟩
  refine ⟨?_, legible, normalize_twice {} _ rfl legible⟩
  decide +kernel

end Desk

end Teller
