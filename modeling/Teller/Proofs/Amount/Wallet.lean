import Teller.Proofs.Amount.Shares
import Teller.Proofs.Amount.Stability

/-!
# Shares of the balance

A share of the balance is no greater than the balance, but what is shown of it has been rounded: the
product to a double, for a percentage the quotient as well, and the text to twelve places. In the
default range a share that leaves one percent of the balance is far enough below it. Nearly all of
it may be shown as more than there is, and exactly if the balance is below the amount at twelve
places.

    first?_of_balance            a balance is the first base
    ReadsShare.isShare           which share of the balance is read
    exists_read?_plain_of_pos    what the text of an amount names
    plain_le_iff                 when the text of an amount stays within the balance
    roundTo_le_of_le             amounts that leave a part of the balance do
    isNearlyAll_of_exceeded      shares that may not
-/

namespace Teller

namespace Amount

open Text Number

variable {config : Config} {bases : Bases} {text : List Char} {b x : Float} {v w : Rat}

/-- An amount is read as a share of a positive balance: as a percentage or by a word, from a text
that does not ask for another base. -/
structure ReadsShare (config : Config) (bases : Bases) (raw : String) (r : Reading) (balance : Float) :
    Prop where
  known : bases.balance = some balance
  positive : 0 < balance
  finite : balance.isFinite = true
  no_portfolio : occursIn "portfolio".toList (normalize raw) = false
  no_position : occursIn "position".toList (normalize raw) = false
  reads : parse config (some bases) (some raw) = .ok r
  share : r.strategy = .percentage ∨ r.strategy = .relative

/-- The share of a sum that a text states, by the strategy that reads it: a percentage up to a
hundred, or the fraction of the first word of the table that occurs. -/
inductive IsShare (text : List Char) (sum : Float) : Strategy → Float → Prop
  | percent {n : Float} (stated : percent? text = some n) (within : n ≤ 100) :
      IsShare text sum .percentage (sum * n / 100)
  | word {entry : String × Float}
      (stated : (relativeWords.find? fun (word, _) => standsFrom word.toList true text) = some entry) :
      IsShare text sum .relative (sum * entry.2)

/-- The share is the whole sum, or more than ninety-nine percent of it. -/
inductive IsNearlyAll (text : List Char) (sum : Float) : Strategy → Float → Prop
  | percent {n : Float} (stated : percent? text = some n) (beyond : 99 < n) (within : n ≤ 100) :
      IsNearlyAll text sum .percentage (sum * n / 100)
  | word {word : String}
      (stated : (relativeWords.find? fun (word, _) => standsFrom word.toList true text) =
        some (word, 1)) :
      IsNearlyAll text sum .relative sum

/-! ## Which share is stated -/

/-- A positive balance is the first base. -/
theorem first?_of_balance (balance : bases.balance = some b) (pos : 0 < b) :
    bases.first? Base.order = some (.balance, b) := by
  have get : bases.get? .balance = some b := by
    unfold Bases.get?
    rw [balance]
    exact Option.filter_eq_some_iff.2 ⟨rfl, by rw [bne, beq_zero_of_pos pos]; rfl⟩
  unfold Bases.first? Base.order
  rw [List.findSome?_cons, get]
  rfl

/-- Which share of the balance is read. -/
theorem ReadsShare.isShare {raw : String} {r : Reading} (h : ReadsShare config bases raw r b) :
    IsShare (normalize raw) b r.strategy r.value := by
  obtain ⟨candidate, -⟩ := candidate_of_parse h.reads
  have first := first?_of_balance h.known h.positive
  rcases h.share with percentage | relative
  · rw [percentage] at candidate ⊢
    obtain ⟨n, base, sum, stated, within, found, value⟩ :=
      percentage?_eq_some (Except.ok.inj candidate)
    rw [first] at found
    cases found
    rw [Reading.value, value]
    obtain ⟨v, nearest⟩ := isNearest_of_percent? stated
    exact .percent stated (le_of_not_lt nearest.not_isNaN (by decide) within)
  · rw [relative] at candidate ⊢
    obtain ⟨entry, base, sum, stated, found, value⟩ := relative?_eq_some (Except.ok.inj candidate)
    have order : baseOrder (normalize raw) = Base.order := by
      unfold baseOrder
      rw [h.no_portfolio, h.no_position]
      rfl
    rw [order, first] at found
    cases found
    rw [Reading.value, value]
    exact .word stated

/-! ## What is shown -/

/-- The text of a positive amount names a number that is above the same bounds as the amount at
twelve places. -/
theorem exists_read?_plain_of_pos (pos : 0 < x) : ∃ u, read? (plain x) = some u ∧ u.isNaN = false ∧
    ∀ bound, bound < u ↔ bound < roundTo 12 x := by
  cases finite : x.isFinite with
  | true =>
    obtain ⟨w, -, hx⟩ := exists_denotes pos finite
    obtain ⟨q, u, -, -, hu⟩ := exists_roundTo hx 12
    exact ⟨_, read?_plain_eq hx, hu.not_isNaN, fun _ => Iff.rfl⟩
  | false =>
    -- an infinite amount is shown and read as such
    have unpack := unpack_of_pos pos finite
    have fields : Binary.ofFloat x = .infinite false := by
      rw [ofFloat_eq_ofUnpacked, unpack]
      rfl
    have kept : roundTo 12 x = x := by
      unfold roundTo
      rw [fields]
    have same : x.toModel.unpack = (1 / 0 : Float).toModel.unpack :=
      unpack.trans (unpack_of_pos (by decide) (by decide)).symm
    rw [plain_of_infinite fields, kept]
    refine ⟨1 / 0, rfl, by decide, fun bound => ?_⟩
    rw [lt_iff_compare, lt_iff_compare, same]

/-- The text of a positive amount names at most the balance, unless this is below the amount at
twelve places. -/
theorem plain_le_iff (number : b.isNaN = false) (pos : 0 < x) :
    (∃ u, read? (plain x) = some u ∧ u ≤ b) ↔ ¬b < roundTo 12 x := by
  obtain ⟨u, read, number', above⟩ := exists_read?_plain_of_pos pos
  rw [read, ← above]
  constructor
  · rintro ⟨_, ⟨⟩, within⟩
    exact Number.not_lt_of_le within
  · intro within
    exact ⟨u, rfl, Number.le_of_not_lt number' number within⟩

/-- An amount that leaves a part of the balance stays within it at twelve places. -/
theorem roundTo_le_of_le (hb : Denotes b v) (hx : Denotes x w) (above : leastAmount ≤ w)
    (below : w ≤ 199 / 200 * v) : roundTo 12 x ≤ b := by
  obtain ⟨q, u, near, rounds, hu⟩ := exists_roundTo hx 12
  have least := le_leastAmount.trans above
  have close := (abs_le.1 near.multiple.abs_sub_le).2
  have within : (q : Rat) / 10 ^ 12 ≤ v := by
    norm_num at close least ⊢
    linarith
  exact (hu.le_iff hb).2 (rounds.mono hb.rounds_self within)

/-- What a percentage of a number is at most. -/
theorem le_of_percent {n : Float} (hb : Denotes b v) (stated : percent? text = some n) (within : n ≤ 99)
    (hx : Denotes (b * n / 100) w) (above : leastAmount ≤ w) : w ≤ 199 / 200 * v := by
  have hundred : Denotes 100 (10 ^ 2) := denotes_of_isPowerOfTen (by decide +kernel)
  have least := le_leastAmount.trans above
  have most : Denotes 99 99 := denotes_toUInt64 (n := 99) (by decide) (by decide)
  obtain ⟨m, nearest⟩ := isNearest_of_percent? stated
  cases nearest with
  | infinite unpack =>
    exact absurd (most.lt_infinite unpack) (Number.not_lt_of_le within)
  | @finite z _ hn =>
    have part := (hn.le_iff most).1 within
    cases hb.mul hn with
    | infinite unpack =>
      have finite : (b * n / 100).toModel.unpack.isFinite = true := hx.isFinite
      rw [Denotes.infinite_div unpack hundred (by positivity)] at finite
      cases finite
    | @finite p product hp =>
      obtain ⟨w', quotient, hw⟩ := (hp.div hundred (by positivity)).exists_of_isFinite hx.isFinite
      rw [hw.number_unique hx] at quotient
      have scaled := quotient.le_near (by norm_num at least ⊢; linarith)
      have multiplied := product.le_near (by norm_num at scaled least ⊢; linarith)
      have grown : v * z ≤ v * 99 := mul_le_mul_of_nonneg_left part hb.nonneg
      norm_num at scaled multiplied
      linarith [hb.nonneg]

/-- What a word stands for is the whole, or a part of it. -/
theorem fraction_table : ∀ entry ∈ relativeWords, entry.2 = 1 ∨ entry.2 ≤ 0.8 := by
  decide +kernel

/-- What a part of a number is at most. -/
theorem le_of_word {entry : String × Float} (hb : Denotes b v) (mem : entry ∈ relativeWords)
    (part : entry.2 ≤ 0.8) (hx : Denotes (b * entry.2) w) (above : leastAmount ≤ w) :
    w ≤ 199 / 200 * v := by
  have least := le_leastAmount.trans above
  have most : Denotes 0.8 (weight 7205759403792794 (-53)) :=
    denotes_of_fields (by decide +kernel) (by decide)
  obtain ⟨z, hz, -, -⟩ := exists_denotes_of_mem mem
  have below := (hz.le_iff most).1 part
  obtain ⟨w', product, hw⟩ := (hb.mul hz).exists_of_isFinite hx.isFinite
  rw [hw.number_unique hx] at product
  have multiplied := product.le_near (by norm_num at least ⊢; linarith)
  have grown : v * z ≤ v * weight 7205759403792794 (-53) := mul_le_mul_of_nonneg_left below hb.nonneg
  norm_num [weight] at multiplied grown
  linarith [hb.nonneg]

/-- In the default range only nearly all of a balance may be shown as more than the balance. -/
theorem isNearlyAll_of_exceeded {s : Strategy} (pos : 0 < b) (finite : b.isFinite = true)
    (share : IsShare text b s x) (permits : Config.Permits {} x) (exceeded : b < roundTo 12 x) :
    IsNearlyAll text b s x := by
  obtain ⟨v, -, hb⟩ := exists_denotes pos finite
  obtain ⟨w, hx, above, -⟩ := exists_denotes_of_permits permits
  have not_within (below : w ≤ 199 / 200 * v) : False := by
    have within := roundTo_le_of_le hb hx above below
    exact Number.not_lt_of_le within exceeded
  cases share with
  | @percent n stated within =>
    by_cases beyond : 99 < n
    · exact .percent stated beyond within
    · have bounded : n ≤ 99 := Number.le_of_not_lt (Number.not_isNaN_of_le within).1 (by decide) beyond
      exact (not_within (le_of_percent hb stated bounded hx above)).elim
  | @word entry stated =>
    obtain ⟨word, fraction⟩ := entry
    have mem := List.mem_of_find?_eq_some stated
    rcases fraction_table _ mem with rfl | part
    · dsimp only at *
      rw [mul_one_of_permits (.finite hb.rounds_self hb) permits]
      exact .word stated
    · exact (not_within (le_of_word hb mem part hx above)).elim

end Amount

end Teller
