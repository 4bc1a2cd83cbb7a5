import Teller.Proofs.Careful.Parameters
import Teller.Proofs.Number.Halves
import Teller.Proofs.Number.Places

/-!
# Figures

Leverages and slippages are figures: a minus sign or none, digits with a point or without one, and a
mark. Of such a text the first number is taken that begins with a digit. If the figure has digits
before the point, that is the figure. If it begins with the point, then sign and point are passed
over, and the digits behind the point are taken for a whole number. It is written like the figure
only if all of them are zero: otherwise the figure is below one, at most a half if the whole number
is one, and twelve places are enough to tell them apart.

    plain_toFloat_ne             a decimal below one is written otherwise than its digits
    Figure                       the texts that name figures
    firstNumber?_of_whole        a figure with digits before the point is read
    firstNumber?_of_point        of any other the digits behind the point are read
    figure_kept_iff              when a figure is normalized as itself
-/

namespace Teller

/-! ## Decimals and their digits -/

namespace Number

open Text
open Float.Model.UnpackedFloat (Sign)

variable {n k : Nat} {d : Decimal}

/-- Digits stand for a number with no more digits. -/
theorem ofDigits_lt {cs : List Char} (digits : ∀ c ∈ cs, c.isDigit = true) :
    ofDigits cs < 10 ^ cs.length := by
  induction cs using List.reverseRecOn with
  | nil => decide
  | append_singleton cs c ih =>
    have before := ih fun d hd => digits d (List.mem_append_left _ hd)
    have last : ofDigits [c] ≤ 9 := by
      have := toNat_of_isDigit (digits c List.mem_concat_self)
      show 10 * 0 + (c.toNat - 48) ≤ 9
      omega
    rw [ofDigits_append, List.length_append, List.length_singleton, Nat.pow_one, Nat.pow_succ]
    omega

/-- A number within a bound is no greater. -/
theorem UpTo.number_le {b u : Rat} {s : Sign} {z : Float} (h : UpTo s b z.toModel.unpack) (nonneg : 0 ≤ b)
    (denotes : Denotes z u) : u ≤ b := by
  unfold Denotes at denotes
  generalize z.toModel.unpack = a at h denotes
  cases h with
  | zero t =>
    cases denotes
    exact nonneg
  | finite canonical le =>
    cases denotes
    exact le

/-- What is read from the digits of a whole number is not below any smaller double. -/
theorem exists_read?_plain_whole {c : Nat} (double : Rounds c c) (le : c ≤ n) :
    ∃ z, read? (plain (Decimal.toFloat ⟨n, 0⟩)) = some z ∧
      ∀ s b, 0 ≤ b → UpTo s b z.toModel.unpack → (c : Rat) ≤ b := by
  have value : (c : Rat) ≤ (Decimal.mk n 0).value := by
    rw [Decimal.value, zpow_zero, mul_one]
    exact Nat.cast_le.2 le
  cases Decimal.isNearest ⟨n, 0⟩ with
  | finite rounds denotes =>
    obtain ⟨q, u, near, rounds', denotes'⟩ := exists_roundTo denotes 12
    have above : (c : Rat) ≤ u := double.mono rounds' (near.multiple.le_value (double.mono rounds value))
    exact ⟨_, read?_plain_eq denotes, fun s b nonneg h => above.trans (h.number_le nonneg denotes')⟩
  | infinite unpack =>
    have infinity : (1 / 0 : Float).toModel.unpack = .infinity .positive := rfl
    have fields : Binary.ofFloat (Decimal.toFloat ⟨n, 0⟩) = .infinite false := by
      rw [ofFloat_eq_ofUnpacked, unpack]
      rfl
    rw [plain_of_infinite fields]
    refine ⟨1 / 0, rfl, fun s b nonneg h => ?_⟩
    rw [infinity] at h
    cases h

/-- What is within a bound, written plainly, is not written like a whole number beyond it. -/
theorem plain_ne_of_upTo {x : Float} {v : Rat} {s : Sign} {m c : Nat} {e : Int} (nonneg : 0 ≤ v)
    (within : UpTo s v x.toModel.unpack) (canonical : IsCanonical m e)
    (room : ∀ j : Nat, (j : Rat) ≤ v * 10 ^ 12 + 1 / 2 → (j : Rat) / 10 ^ 12 ≤ weight m e)
    (apart : weight m e < c) (double : Rounds c c) (le : c ≤ n) :
    plain x ≠ plain (Decimal.toFloat ⟨n, 0⟩) := by
  intro same
  obtain ⟨z, reads, above⟩ := exists_read?_plain_whole double le
  rw [← same] at reads
  have below := upTo_of_read?_plain nonneg within canonical room reads
  exact absurd (above _ _ (weight_nonneg m e) below) (not_le.2 apart)

section

variable {m : Nat} {e : Int}

theorem exists_upTo_signed (negative : Bool) (canonical : IsCanonical m e) (le : d.value ≤ weight m e) :
    ∃ s, UpTo s (weight m e) (if negative then -d.toFloat else d.toFloat).toModel.unpack := by
  have positive : UpTo .positive (weight m e) d.toFloat.toModel.unpack :=
    Decimal.upTo_toFloat canonical le
  cases negative
  · exact ⟨_, positive⟩
  · exact ⟨_, positive.neg⟩

theorem rounds_natCast {c : Nat} (pos : 0 < c) (small : c < 2 ^ 53) : Rounds c c :=
  (denotes_toUInt64 pos small).rounds_self

/-- A half is written otherwise than whole numbers from one on: with twelve places it is no more
than three quarters. -/
theorem plain_ne_of_le_half (negative : Bool) (le : d.value ≤ 1 / 2) (pos : 0 < n) :
    plain (if negative then -d.toFloat else d.toFloat) ≠ plain (Decimal.toFloat ⟨n, 0⟩) := by
  have half : IsCanonical (2 ^ 52) (-53) := ⟨⟨by decide, by decide, .inr le_rfl⟩, by decide⟩
  have larger : IsCanonical (3 * 2 ^ 51) (-53) := ⟨⟨by decide, by decide, .inr (by decide)⟩, by decide⟩
  have half_eq : weight (2 ^ 52) (-53) = 1 / 2 := by norm_num [weight]
  have larger_eq : weight (3 * 2 ^ 51) (-53) = 3 / 4 := by norm_num [weight]
  obtain ⟨s, within⟩ := exists_upTo_signed negative half (le.trans_eq half_eq.symm)
  refine plain_ne_of_upTo (weight_nonneg _ _) within larger (fun j hj => ?_) ?_
    (rounds_natCast one_pos (by decide)) pos
  · rw [half_eq] at hj
    rw [larger_eq, div_le_iff₀ (by positivity)]
    linarith
  · rw [larger_eq]
    norm_num

/-- One is written otherwise than whole numbers from two on. -/
theorem plain_ne_of_le_one (negative : Bool) (le : d.value ≤ 1) (two_le : 2 ≤ n) :
    plain (if negative then -d.toFloat else d.toFloat) ≠ plain (Decimal.toFloat ⟨n, 0⟩) := by
  have unit : IsCanonical (2 ^ 52) (-52) := ⟨⟨by decide, by decide, .inr le_rfl⟩, by decide⟩
  have unit_eq : weight (2 ^ 52) (-52) = 1 := by norm_num [weight]
  obtain ⟨s, within⟩ := exists_upTo_signed negative unit (le.trans_eq unit_eq.symm)
  refine plain_ne_of_upTo (weight_nonneg _ _) within unit (fun j hj => ?_) ?_
    (rounds_natCast two_pos (by decide)) two_le
  · rw [unit_eq] at hj
    have whole : j < 10 ^ 12 + 1 := by
      have : (j : Rat) < (10 ^ 12 + 1 : Nat) := by
        push_cast
        linarith
      exact Nat.cast_lt.1 this
    rw [unit_eq, div_le_one (by positivity)]
    exact_mod_cast Nat.lt_succ_iff.1 whole
  · rw [unit_eq]
    norm_num

end

/-- A positive decimal below one is written otherwise than its digits, whatever its sign. -/
theorem plain_toFloat_ne (negative : Bool) (pos : 0 < n) (below : n < 10 ^ k) :
    plain (if negative then -Decimal.toFloat ⟨n, -(k : Int)⟩ else Decimal.toFloat ⟨n, -(k : Int)⟩) ≠
      plain (Decimal.toFloat ⟨n, 0⟩) := by
  have power : (0 : Rat) < 10 ^ k := by positivity
  by_cases one : n = 1
  · refine plain_ne_of_le_half negative ?_ pos
    have two_le : (2 : Rat) ≤ 10 ^ k := by
      rw [one] at below
      exact_mod_cast below
    rw [value_places, one, div_le_iff₀ power]
    push_cast
    linarith
  · refine plain_ne_of_le_one negative ?_ (by omega)
    rw [value_places, div_le_one power]
    exact_mod_cast below.le

end Number

namespace Desk

open Number Text

/-! ## Numerals at the start of a text -/

section

variable {whole fraction rest : List Char}

/-- Digits are a numeral as far as they go. -/
theorem leadingNumeral_append (nonempty : whole ≠ []) (digits : ∀ c ∈ whole, isDigit c = true)
    (ends : ∀ c ∈ rest.head?, isDigit c = false ∧ c ≠ '.') :
    leadingNumeral (whole ++ rest) = whole := by
  obtain ⟨taken, dropped⟩ := span_isDigit digits fun c hc => (ends c hc).1
  obtain ⟨first, others, rfl⟩ := List.exists_cons_of_ne_nil nonempty
  unfold leadingNumeral
  rw [taken, dropped]
  dsimp only
  split
  · exact absurd rfl (ends '.' rfl).2
  · rfl

/-- With a point behind them the digits that follow it belong to the numeral, and without such
digits the point does not. -/
theorem leadingNumeral_point (nonempty : whole ≠ []) (digits : ∀ c ∈ whole, isDigit c = true)
    (digits' : ∀ c ∈ fraction, isDigit c = true) (ends : ∀ c ∈ rest.head?, isDigit c = false) :
    leadingNumeral (whole ++ '.' :: (fraction ++ rest)) =
      whole ++ if fraction = [] then [] else '.' :: fraction := by
  have point : ∀ c ∈ ('.' :: (fraction ++ rest)).head?, isDigit c = false := by
    rintro _ ⟨⟩
    decide
  obtain ⟨taken, dropped⟩ := span_isDigit digits point
  obtain ⟨taken', -⟩ := span_isDigit digits' ends
  obtain ⟨first, others, rfl⟩ := List.exists_cons_of_ne_nil nonempty
  unfold leadingNumeral
  rw [taken, dropped]
  show (if ((fraction ++ rest).takeWhile isDigit).isEmpty then _
    else first :: others ++ '.' :: (fraction ++ rest).takeWhile isDigit) = _
  rw [taken']
  cases fraction with
  | nil => exact (List.append_nil _).symm
  | cons => rfl

/-- A minus sign or none is the sign of the numeral behind it. -/
theorem numberAt?_signMark (negative : Bool) {cs : List Char} (ends : cs.head? ≠ some '-') :
    numberAt? (signMark negative ++ cs) = if (leadingNumeral cs).isEmpty then none
      else read? (String.ofList (signMark negative ++ leadingNumeral cs)) := by
  cases negative
  · show numberAt? cs = _
    unfold numberAt?
    split
    next minus digits heq =>
    split at heq
    · exact absurd rfl ends
    · cases heq
      rfl
  · rfl

/-- Without a digit before the point there is no numeral. -/
theorem numberAt?_point (negative : Bool) (cs : List Char) :
    numberAt? (signMark negative ++ '.' :: cs) = none := by
  have point : isDigit '.' = false := by decide
  have nothing : leadingNumeral ('.' :: cs) = [] := by
    unfold leadingNumeral
    rw [List.takeWhile_cons_of_neg (by simp [point])]
  rw [numberAt?_signMark negative (by simp), nothing]
  rfl

end

/-! ## Figures -/

/-- A minus sign or none, digits with a point or without one, and a mark for leverages or shares. -/
structure Figure where
  negative : Bool
  whole : List Char
  fraction : Option (List Char)
  mark : Option Char
  whole_isDigit : ∀ c ∈ whole, isDigit c = true
  fraction_isDigit : ∀ c ∈ fraction.getD [], isDigit c = true
  nonempty : whole ++ fraction.getD [] ≠ []
  mark_eq : mark = none ∨ mark = some 'x' ∨ mark = some '%'

namespace Figure

/-- The point and what follows it. -/
def tail (f : Figure) : List Char := (f.fraction.map ('.' :: ·)).getD []

def text (f : Figure) : String :=
  String.ofList (signMark f.negative ++ (f.whole ++ (f.tail ++ f.mark.toList)))

/-- The size of the figure. -/
def decimal (f : Figure) : Decimal :=
  ⟨ofDigits ((f.whole ++ f.fraction.getD []).map latinDigit), -((f.fraction.getD []).length : Int)⟩

def value (f : Figure) : Float := if f.negative then -f.decimal.toFloat else f.decimal.toFloat

/-- The digits behind the point, as a figure without a sign. -/
def behindPoint (f : Figure) (h : f.whole = []) : Figure where
  negative := false
  whole := f.fraction.getD []
  fraction := none
  mark := f.mark
  whole_isDigit := f.fraction_isDigit
  fraction_isDigit := nofun
  nonempty := by simpa [h] using f.nonempty
  mark_eq := f.mark_eq

variable {f : Figure}

/-- Without digits before the point a figure is below one. -/
theorem digits_lt (h : f.whole = []) : f.decimal.digits < 10 ^ (f.fraction.getD []).length := by
  have ascii := ofDigits_lt (isDigit_map_latinDigit f.fraction_isDigit)
  rw [List.length_map] at ascii
  show ofDigits ((f.whole ++ f.fraction.getD []).map latinDigit) < _
  rw [h, List.nil_append]
  exact ascii

theorem not_isDigit_mark (f : Figure) : ∀ c ∈ f.mark.toList.head?, isDigit c = false ∧ c ≠ '.' := by
  rcases f.mark_eq with none | cross | percent
  · rw [none]
    nofun
  · rw [cross]
    rintro _ ⟨⟩
    decide
  · rw [percent]
    rintro _ ⟨⟩
    decide

/-- The point and the digits behind it, if there are any. -/
def kept (f : Figure) : List Char :=
  if f.fraction.getD [] = [] then [] else '.' :: f.fraction.getD []

theorem isNumeral (h : f.whole ≠ []) : IsNumeral (signMark f.negative) f.whole f.kept := by
  refine ⟨?_, h, f.whole_isDigit, ?_⟩
  · cases f.negative
    · exact .inl rfl
    · exact .inr rfl
  · unfold kept
    split
    · exact .inl rfl
    · exact .inr ⟨_, rfl, f.fraction_isDigit⟩

/-- A figure with digits before the point is a numeral, as far as the mark. -/
theorem leadingNumeral_eq (h : f.whole ≠ []) :
    leadingNumeral (f.whole ++ (f.tail ++ f.mark.toList)) = f.whole ++ f.kept := by
  have digits := f.fraction_isDigit
  unfold tail kept
  cases present : f.fraction with
  | none =>
    show leadingNumeral (f.whole ++ f.mark.toList) = f.whole ++ []
    rw [leadingNumeral_append h f.whole_isDigit f.not_isDigit_mark, List.append_nil]
  | some fraction =>
    rw [present] at digits
    exact leadingNumeral_point h f.whole_isDigit digits fun c hc => (f.not_isDigit_mark c hc).1

theorem decimal?_eq (h : f.whole ≠ []) :
    decimal? (f.whole.map latinDigit ++ f.kept.map latinDigit) = some f.decimal := by
  have nonempty : f.whole.map latinDigit ≠ [] := by simpa using h
  have digits := isDigit_map_latinDigit f.whole_isDigit
  unfold kept decimal
  split
  · next none =>
    have whole := decimal?_whole nonempty digits
    simpa [none] using whole
  · have pointed := decimal?_fraction nonempty digits (isDigit_map_latinDigit f.fraction_isDigit)
    rw [List.length_map, ← List.map_append] at pointed
    exact pointed

theorem numberAt?_eq (h : f.whole ≠ []) : numberAt? f.text.toList = some f.value := by
  have present : (f.whole ++ f.kept).isEmpty = false := by simp [h]
  have digit : (f.whole ++ (f.tail ++ f.mark.toList)).head? ≠ some '-' := by
    obtain ⟨first, others, whole_eq⟩ := List.exists_cons_of_ne_nil h
    rw [whole_eq]
    rintro ⟨⟩
    exact absurd (f.whole_isDigit '-' (whole_eq ▸ List.mem_cons_self)) (by decide)
  unfold text
  rw [String.toList_ofList, numberAt?_signMark _ digit, leadingNumeral_eq h, present,
    if_neg Bool.false_ne_true, (isNumeral h).read?_eq, decimal?_eq h]
  unfold value
  cases f.negative <;> rfl

/-- A figure with digits before the point is read. -/
theorem firstNumber?_of_whole (h : f.whole ≠ []) : firstNumber? f.text.toList = some f.value := by
  have found := numberAt?_eq h
  cases text : f.text.toList with
  | nil =>
    rw [text] at found
    cases found
  | cons c rest =>
    rw [text] at found
    rw [firstNumber?, found]
    rfl

/-- Of any other the digits behind the point are read. -/
theorem firstNumber?_of_point (h : f.whole = []) :
    firstNumber? f.text.toList = some (Decimal.toFloat ⟨f.decimal.digits, 0⟩) := by
  have behind : firstNumber? (f.fraction.getD [] ++ f.mark.toList) =
      some (Decimal.toFloat ⟨f.decimal.digits, 0⟩) := by
    have read := firstNumber?_of_whole (f := f.behindPoint h) (by simpa [behindPoint, h] using f.nonempty)
    unfold text value decimal at read
    simpa [behindPoint, tail, signMark, decimal, h] using read
  have pointed : f.tail = '.' :: f.fraction.getD [] := by
    have nonempty := f.nonempty
    unfold tail
    cases present : f.fraction with
    | none => simp [h, present] at nonempty
    | some fraction => rfl
  have after_point : firstNumber? ('.' :: (f.fraction.getD [] ++ f.mark.toList)) =
      some (Decimal.toFloat ⟨f.decimal.digits, 0⟩) := by
    rw [firstNumber?, show numberAt? ('.' :: _) = none from numberAt?_point false _]
    exact behind
  unfold text
  rw [String.toList_ofList, h, pointed]
  cases f.negative
  · exact after_point
  · show (numberAt? ('-' :: '.' :: _)).or _ = _
    rw [show numberAt? ('-' :: '.' :: _) = none from numberAt?_point true _]
    exact after_point

end Figure

/-! ## Figures after normalization -/

open Figure

theorem figureText_of_whole {f : Figure} {e : Entity} (text : e.text = f.text) (h : f.whole ≠ []) :
    figureText e = plain f.value := by
  unfold figureText
  rw [text, firstNumber?_of_whole h]

theorem figureText_of_point {f : Figure} {e : Entity} (text : e.text = f.text) (h : f.whole = []) :
    figureText e = plain (Decimal.toFloat ⟨f.decimal.digits, 0⟩) := by
  unfold figureText
  rw [text, firstNumber?_of_point h]

theorem figureText_eq_iff {f : Figure} {e : Entity} (text : e.text = f.text) :
    figureText e = plain f.value ↔ f.whole ≠ [] ∨ f.decimal.digits = 0 := by
  by_cases h : f.whole = []
  · rw [figureText_of_point text h]
    rcases Nat.eq_zero_or_pos f.decimal.digits with zero | pos
    · have whole : Decimal.toFloat ⟨f.decimal.digits, 0⟩ = 0 := Decimal.toFloat_of_zero zero
      refine iff_of_true ?_ (.inr zero)
      unfold value
      rw [whole, Decimal.toFloat_of_zero zero]
      cases f.negative
      · rfl
      · decide +kernel
    · refine iff_of_false (Ne.symm ?_) (by simp [h, pos.ne'])
      exact plain_toFloat_ne f.negative pos (f.digits_lt h)
  · exact iff_of_true (figureText_of_whole text h) (.inl h)

/-- A leverage or slippage is normalized as the figure that was typed exactly if there are digits
before the point, or zeros only behind it. With the point in front the digits behind it are taken
for a whole number. -/
theorem figure_kept_iff (desk : Desk) (account : Option Account) {entities : List Entity} {i : Nat}
    {e : Entity} {f : Figure} (listed : entities[i]? = some e)
    (kind : e.kind = .leverage ∨ e.kind = .slippage) (text : e.text = f.text) :
    ∃ e', (normalize desk entities account)[i]? = some e' ∧
      (e'.normalized = plain f.value ↔ f.whole ≠ [] ∨ f.decimal.digits = 0) ∧
      (f.whole = [] → e'.normalized = plain (Decimal.toFloat ⟨f.decimal.digits, 0⟩)) := by
  have figure (bases : Option Amount.Bases) : normalizedText desk bases e = figureText e := by
    unfold normalizedText
    rcases kind with leverage | slippage
    · rw [leverage]
    · rw [slippage]
  unfold normalize
  refine ⟨_, by rw [List.getElem?_map, listed, Option.map_some], ?_⟩
  unfold normalizeEntity
  rw [figure]
  exact ⟨figureText_eq_iff text, figureText_of_point text⟩

/-- Half a percent. -/
def Figure.half : Figure where
  negative := false
  whole := ['0']
  fraction := some ['5']
  mark := some '%'
  whole_isDigit := List.forall_mem_singleton.2 (by decide)
  fraction_isDigit := List.forall_mem_singleton.2 (by decide)
  nonempty := by decide
  mark_eq := .inr (.inr rfl)

theorem half_kept :
    ∃ e', (normalize {} [{ kind := .slippage, value := "0.5%", normalized := "" }] none)[0]? = some e' ∧
      e'.normalized = plain Figure.half.value ∧ plain Figure.half.value = "0.5" := by
  have listed : ([{ kind := .slippage, value := "0.5%", normalized := "" }] : List Entity)[0]? =
      some { kind := .slippage, value := "0.5%", normalized := "" } := rfl
  obtain ⟨e', normal, kept, -⟩ :=
    figure_kept_iff {} none (f := .half) listed (.inr rfl) (by decide +kernel)
  exact ⟨e', normal, kept.2 (.inl (by decide)), by decide +kernel⟩

/-- Half a percent, with the point in front. -/
def Figure.bareHalf : Figure :=
  { Figure.half with whole := [], whole_isDigit := nofun, nonempty := by decide }

/-- It is normalized as five, though the text without its mark reads as a half. -/
theorem bareHalf_misread :
    Figure.bareHalf.text = ".5%" ∧ plain Figure.bareHalf.value = "0.5" ∧
    read? ".5" = some Figure.bareHalf.value ∧
    (normalize {} [{ kind := .slippage, value := ".5%", normalized := "" }] none).map (·.normalized) =
      ["5"] := by
  refine ⟨?_, ?_, ?_, ?_⟩
  · decide +kernel
  · decide +kernel
  · rfl
  · decide +kernel

end Desk

end Teller
