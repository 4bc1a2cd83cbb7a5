import Teller.Proofs.Number.Doubles
import Teller.Proofs.Number.Plain

/-!
# Numbers with places

With so many places a number is written in digits of the nearest multiple of the last place, and
these digits stand for the double that the number is rounded to. Without the zeros at its end the
text stands for the same double. A plain number is such a text, for whole numbers as for all others.

    exists_rounded               the multiple of the last place that a number is rounded to
    IsRounded.of_closer          a number that is as close to it is rounded to it as well
    Spells                       digits that stand for a decimal
    exists_spells                a number with places, and the same without zeros at its end
    roundTo_of_isWhole           whole numbers are not changed
    plain_of_not_isWhole         all others are written with at most twelve places
    plain_eq, read?_plain_eq     the text of a plain number, and what it is read as
-/

namespace Teller.Number

variable {x : Float} {v : Rat} {places q : Nat}

/-! ## Multiples of the last place -/

/-- The number of last places nearest to a number. -/
def IsMultiple (v : Rat) (places q : Nat) : Prop := |(q : Rat) - v * 10 ^ places| ≤ 1 / 2

namespace IsMultiple

/-- The multiple is off by half of a place at most. -/
theorem abs_sub_le (h : IsMultiple v places q) :
    |(q : Rat) / 10 ^ places - v| ≤ 1 / (2 * 10 ^ places) := by
  have positive : (0 : Rat) < 10 ^ places := by positivity
  have scaled : (q : Rat) / 10 ^ places - v = (q - v * 10 ^ places) / 10 ^ places := by
    rw [sub_div, mul_div_cancel_right₀ _ positive.ne']
  rw [scaled, abs_div, abs_of_pos positive, ← div_div]
  exact div_le_div_of_nonneg_right h positive.le

theorem le_of_lt (h : IsMultiple v places q) {n : Nat} (lt : (n : Rat) - 1 / 2 < v * 10 ^ places) :
    n ≤ q := by
  have below := (abs_le.1 h).1
  have : (n : Rat) < q + 1 := by linarith
  exact Nat.lt_succ_iff.1 (by exact_mod_cast this)

theorem le_of_le (h : IsMultiple v places q) {n : Nat} (le : v * 10 ^ places ≤ n) : q ≤ n := by
  have above := (abs_le.1 h).2
  have : (q : Rat) < n + 1 := by linarith
  exact Nat.lt_succ_iff.1 (by exact_mod_cast this)

/-- The multiple is not below a whole number that the number is not below. -/
theorem le_value (h : IsMultiple v places q) {n : Nat} (le : n ≤ v) : n ≤ (q : Rat) / 10 ^ places := by
  have scale : (0 : Rat) < 10 ^ places := by positivity
  have scaled := mul_le_mul_of_nonneg_right le scale.le
  have whole : n * 10 ^ places ≤ q := h.le_of_lt (by push_cast; linarith)
  exact (le_div_iff₀ scale).2 (by exact_mod_cast whole)

theorem value_le (h : IsMultiple v places q) {n : Nat} (le : v ≤ n) : (q : Rat) / 10 ^ places ≤ n := by
  have scale : (0 : Rat) < 10 ^ places := by positivity
  have scaled := mul_le_mul_of_nonneg_right le scale.le
  have whole : q ≤ n * 10 ^ places := h.le_of_le (by push_cast; exact scaled)
  exact (div_le_iff₀ scale).2 (by exact_mod_cast whole)

end IsMultiple

theorem value_places (q places : Nat) : (Decimal.mk q (-(places : Int))).value = q / 10 ^ places := by
  rw [Decimal.value, zpow_neg, zpow_natCast, div_eq_mul_inv]

/-- The number of last places that a number is rounded to: the nearest one, and the even one from
half way. -/
structure IsRounded (v : Rat) (places q : Nat) : Prop where
  multiple : IsMultiple v places q
  even : |(q : Rat) - v * 10 ^ places| = 1 / 2 → q % 2 = 0

namespace IsRounded

variable {p : Nat} {u : Rat}

/-- Rounding keeps the order. -/
theorem mono (h : IsRounded v places p) (h' : IsRounded u places q) (le : v ≤ u) : p ≤ q := by
  by_contra! beyond
  have apart : (q : Rat) + 1 ≤ p := by exact_mod_cast beyond
  have scaled : v * 10 ^ places ≤ u * 10 ^ places := mul_le_mul_of_nonneg_right le (by positivity)
  have below := (abs_le.1 h.multiple).2
  have above := (abs_le.1 h'.multiple).1
  -- both numbers can only be half way between two multiples, and then they are rounded to the even one
  have upper : (p : Rat) - v * 10 ^ places = 1 / 2 := by linarith
  have lower : (q : Rat) - u * 10 ^ places = -(1 / 2) := by linarith
  have even := h.even (by rw [upper, abs_of_pos (by norm_num)])
  have even' := h'.even (by rw [lower, abs_neg, abs_of_pos (by norm_num)])
  have next : p = q + 1 := by
    have : (p : Rat) = q + 1 := by linarith
    exact_mod_cast this
  omega

/-- A number is rounded to one multiple only. -/
theorem unique (h : IsRounded v places p) (h' : IsRounded v places q) : p = q :=
  le_antisymm (h.mono h' le_rfl) (h'.mono h le_rfl)

/-- A number that is as close to the multiple is rounded to it as well. -/
theorem of_closer (h : IsRounded v places q)
    (closer : |(q : Rat) - u * 10 ^ places| ≤ |(q : Rat) - v * 10 ^ places|) : IsRounded u places q where
  multiple := closer.trans h.multiple
  even half := h.even (le_antisymm h.multiple (half.symm.le.trans closer))

/-- A multiple is rounded to itself. -/
theorem self (q : Nat) : IsRounded (q / 10 ^ places) places q := by
  have exact : (q : Rat) - q / 10 ^ places * 10 ^ places = 0 := by
    rw [div_mul_cancel₀ _ (by positivity), sub_self]
  refine ⟨?_, fun half => ?_⟩
  · rw [IsMultiple, exact, abs_zero]
    norm_num
  · rw [exact, abs_zero] at half
    norm_num at half

/-- A whole number is rounded to itself. -/
theorem of_natCast (k : Nat) : IsRounded k places (k * 10 ^ places) := by
  have exact : IsRounded ((k * 10 ^ places : Nat) / 10 ^ places) places (k * 10 ^ places) := self _
  rwa [Nat.cast_mul, Nat.cast_pow, Nat.cast_ofNat, mul_div_cancel_right₀ _ (by positivity)] at exact

end IsRounded

/-- What a number is rounded to, and how it is written with so many places. -/
theorem exists_rounded (h : Denotes x v) (places : Nat) : ∃ q, IsRounded v places q ∧
    fixed places x = String.ofList (pointed places q) ∧
    roundTo places x = Decimal.toFloat ⟨q, -(places : Int)⟩ := by
  obtain ⟨m, e, fields, rfl⟩ := h.exists_fields
  have pos := Fraction.den_shift_pos (den_size_pos m e) places
  have above := Fraction.round_le pos
  have below := Fraction.le_round pos
  have even := Fraction.even_round pos
  rw [Fraction.value_shift, value_size, zpow_natCast] at above below even
  refine ⟨((Binary.size m e).shift places).round, ⟨abs_le.2 ⟨by linarith, by linarith⟩, even⟩, ?_, ?_⟩
  · unfold fixed written
    rw [fields]
    rfl
  · unfold roundTo
    rw [fields]
    rfl

/-- The rounded number is not beyond all doubles: a number beyond all mantissas is whole. -/
theorem moderate_of_isRounded (h : Denotes x v) (near : IsRounded v places q) :
    Moderate (q / 10 ^ places) := by
  obtain ⟨m, e, fields, rfl⟩ := h.exists_fields
  have canonical : IsCanonical m e := isCanonical_of_ofBits fields
  rcases Int.lt_or_le e 0 with fraction | whole
  · have below : weight m e ≤ (2 ^ 53 : Nat) :=
      calc weight m e ≤ weight m 0 := weight_le_weight_right fraction.le
        _ = m := weight_natCast m
        _ ≤ (2 ^ 53 : Nat) := Nat.cast_le.2 canonical.small.le
    refine moderate_two_pow.of_le ((near.multiple.value_le below).trans ?_)
    exact_mod_cast (by decide +kernel : 2 ^ 53 ≤ 2 ^ 200)
  · obtain ⟨k, rfl⟩ := Int.eq_ofNat_of_zero_le whole
    have value : weight m k = (m * 2 ^ k : Nat) := by
      rw [← weight_natCast, weight_mul_pow, Int.zero_add]
    rw [value] at near
    rw [near.unique (.of_natCast _), Nat.cast_mul, Nat.cast_pow, Nat.cast_ofNat,
      mul_div_cancel_right₀ _ (by positivity), ← value]
    exact h.moderate

/-- A number with so many places is the nearest multiple of the last place, rounded. -/
theorem exists_roundTo (h : Denotes x v) (places : Nat) : ∃ q u, IsRounded v places q ∧
    Rounds (q / 10 ^ places) u ∧ Denotes (roundTo places x) u := by
  obtain ⟨q, near, -, rounded⟩ := exists_rounded h places
  have moderate : Moderate (Decimal.mk q (-(places : Int))).value := by
    rw [value_places]
    exact moderate_of_isRounded h near
  obtain ⟨u, rounds, denotes⟩ := (Decimal.isNearest _).exists_denotes moderate
  rw [value_places] at rounds
  rw [← rounded] at denotes
  exact ⟨q, u, near, rounds, denotes⟩

/-! ## Digits for a decimal -/

/-- Digits, alone or with a fraction, that stand for a decimal. -/
structure Spells (whole tail : List Char) (d : Decimal) : Prop where
  nonempty : whole ≠ []
  digits : ∀ c ∈ whole, c.isDigit = true
  ends : tail = [] ∨ ∃ kept, tail = '.' :: kept ∧ kept ≠ [] ∧ ∀ c ∈ kept, c.isDigit = true
  decimal : decimal? (whole ++ tail) = some d

/-- The characters of such digits. -/
theorem Spells.cases_of_mem {whole tail : List Char} {d : Decimal} (h : Spells whole tail d) {c : Char}
    (hc : c ∈ whole ++ tail) : c = '.' ∨ c.isDigit = true := by
  rcases List.mem_append.1 hc with digit | hc
  · exact .inr (h.digits c digit)
  · rcases h.ends with rfl | ⟨kept, rfl, -, digits⟩
    · cases hc
    · exact (List.mem_cons.1 hc).imp_right (digits c)

/-- Digits, alone or with a fraction that does not end in a zero. -/
inductive PlainNumeral : List Char → Prop
  | whole {digits : List Char} (nonempty : digits ≠ []) (ascii : ∀ c ∈ digits, c.isDigit = true) :
      PlainNumeral digits
  | fraction {digits kept : List Char} {last : Char} (nonempty : digits ≠ [])
      (ascii : ∀ c ∈ digits, c.isDigit = true) (ascii' : ∀ c ∈ kept ++ [last], c.isDigit = true)
      (ends : last ≠ '0') : PlainNumeral (digits ++ '.' :: (kept ++ [last]))

/-- Digits with a point, without the zeros at their end, stand for the same decimal. -/
theorem exists_spells_trimmed (pos : 0 < places) (q : Nat) : ∃ whole tail d,
    dropTrailingZeros (pointed places q) = whole ++ tail ∧ Spells whole tail d ∧
      d.value = q / 10 ^ places ∧ PlainNumeral (whole ++ tail) := by
  obtain ⟨whole, fraction, pointed_eq, nonempty, digits, digits', length, value⟩ := exists_pointed pos q
  obtain ⟨tail, d, dropped, ends, decimal, value'⟩ := exists_dropTrailingZeros [] nonempty digits digits'
  rw [value, length] at value'
  rw [pointed_eq]
  refine ⟨whole, tail, d, dropped, ⟨nonempty, digits, ?_, decimal⟩, value', ?_⟩
  · exact ends.imp_right fun ⟨kept, same, kept_ne_nil, kept_digits, _⟩ =>
      ⟨kept, same, kept_ne_nil, kept_digits⟩
  · rcases ends with rfl | ⟨kept, rfl, kept_ne_nil, kept_digits, no_zero⟩
    · rw [List.append_nil]
      exact .whole nonempty digits
    · obtain ⟨init, last, rfl⟩ := (List.eq_nil_or_concat' kept).resolve_left kept_ne_nil
      refine .fraction nonempty digits kept_digits ?_
      rintro rfl
      exact no_zero List.getLast?_concat

/-- A number with places, and the same without zeros at its end. -/
theorem exists_spells (h : Denotes x v) (pos : 0 < places) : ∃ q, IsMultiple v places q ∧
    roundTo places x = Decimal.toFloat ⟨q, -(places : Int)⟩ ∧
    (∃ whole tail, fixed places x = String.ofList (whole ++ tail) ∧
      Spells whole tail ⟨q, -(places : Int)⟩) ∧
    ∃ whole tail d, dropTrailingZeros (fixed places x).toList = whole ++ tail ∧ Spells whole tail d ∧
      d.value = q / 10 ^ places := by
  obtain ⟨q, ⟨multiple, -⟩, text, rounded⟩ := exists_rounded h places
  obtain ⟨whole, fraction, pointed_eq, nonempty, digits, digits', length, value⟩ := exists_pointed pos q
  obtain ⟨whole', tail', d, dropped, spells, value', -⟩ := exists_spells_trimmed pos q
  have fraction_ne_nil : fraction ≠ [] := by
    rintro rfl
    exact absurd length pos.ne
  have decimal := decimal?_fraction nonempty digits digits'
  rw [value, length] at decimal
  rw [text, String.toList_ofList]
  refine ⟨q, multiple, rounded, ⟨whole, '.' :: fraction, by rw [pointed_eq], nonempty, digits,
    .inr ⟨fraction, rfl, fraction_ne_nil, digits'⟩, decimal⟩, whole', tail', d, dropped, spells, value'⟩

/-! ## Plain numbers -/

/-- A whole number is written exactly. -/
theorem exists_of_isWhole (h : Denotes x v) (whole : isWhole x = true) :
    ∃ k : Nat, v = k ∧ plain x = String.ofList (digitsOf k) := by
  obtain ⟨m, e, fields, rfl⟩ := h.exists_fields
  refine ⟨(Binary.size m e).num / (Binary.size m e).den, ?_, ?_⟩
  · unfold isWhole at whole
    rw [fields] at whole
    obtain ⟨k, hk⟩ := Nat.dvd_of_mod_eq_zero (beq_iff_eq.1 whole)
    have positive : ((Binary.size m e).den : Rat) ≠ 0 := Nat.cast_ne_zero.2 (den_size_pos m e).ne'
    rw [hk, Nat.mul_div_cancel_left _ (den_size_pos m e), ← value_size, Fraction.value, hk, Nat.cast_mul,
      mul_div_cancel_left₀ _ positive]
  · unfold plain truncate?
    rw [whole, fields]
    rfl

/-- Whole numbers are not changed. -/
theorem roundTo_of_isWhole (h : Denotes x v) (whole : isWhole x = true) (places : Nat) :
    roundTo places x = x := by
  obtain ⟨k, rfl, -⟩ := exists_of_isWhole h whole
  obtain ⟨q, near, -, rounded⟩ := exists_rounded h places
  have same : (Decimal.mk q (-(places : Int))).value = k := by
    rw [value_places, near.unique (.of_natCast k)]
    push_cast
    rw [mul_div_cancel_right₀ _ (by positivity)]
  obtain ⟨w, rounds, denotes⟩ := (Decimal.isNearest _).exists_denotes (h.moderate.of_le same.le)
  rw [same] at rounds
  rw [rounds.unique h.rounds_self, ← rounded] at denotes
  exact denotes.eq h

/-- All other numbers are written with at most twelve places. -/
theorem plain_of_not_isWhole (broken : isWhole x = false) :
    plain x = String.ofList (dropTrailingZeros (fixed 12 x).toList) := by
  unfold plain
  rw [broken]

/-- The digits of a whole number in units of the last place. -/
theorem replicate_append_digitsOf (k places : Nat) :
    List.replicate (places + 1 - (digitsOf (k * 10 ^ places)).length) '0' ++ digitsOf (k * 10 ^ places) =
      digitsOf k ++ List.replicate places '0' := by
  rcases Nat.eq_zero_or_pos k with rfl | pos
  · have zero : digitsOf 0 = ['0'] := rfl
    rw [Nat.zero_mul, zero, List.length_singleton, Nat.add_sub_cancel, ← List.replicate_succ']
    rfl
  · have shifted : digitsOf (k * 10 ^ places) = digitsOf k ++ List.replicate places '0' := by
      induction places with
      | zero => simp
      | succ n ih =>
        have step := Nat.toDigits_append_toDigits (b := 10) (n := k * 10 ^ n) (d := 0) (by decide)
          (by positivity) (by decide)
        rw [List.replicate_succ', ← List.append_assoc, ← ih, Nat.pow_succ, ← Nat.mul_assoc,
          Nat.mul_comm _ 10]
        exact step.symm
    have long : 0 < (digitsOf k).length := Nat.length_toDigits_pos
    rw [shifted, List.length_append, List.length_replicate, show places + 1 - _ = 0 by omega]
    rfl

/-- A whole number with places is its digits with as many zeros behind the point. -/
theorem dropTrailingZeros_pointed (pos : 0 < places) (k : Nat) :
    dropTrailingZeros (pointed places (k * 10 ^ places)) = digitsOf k := by
  have padded := replicate_append_digitsOf k places
  have nonempty : digitsOf k ≠ [] := Nat.toDigits_ne_nil
  have digits : ∀ c ∈ digitsOf k, c.isDigit = true := fun c => isDigit_of_mem_digitsOf
  have zeros : dropTrailing '0' (List.replicate places '0') = [] := by
    simp [dropTrailing]
  unfold pointed dropTrailingZeros
  dsimp only
  rw [if_neg pos.ne', padded, List.length_append, List.length_replicate, Nat.add_sub_cancel,
    List.take_left, List.drop_left, dropTrailing_append_cons (by decide), zeros, dropTrailing_concat]
  exact dropTrailing_point [] nonempty digits

/-- The text of a plain number: its digits to twelve places without the zeros at their end. -/
theorem plain_eq (h : Denotes x v) (near : IsRounded v 12 q) :
    plain x = String.ofList (dropTrailingZeros (pointed 12 q)) := by
  cases whole : isWhole x with
  | true =>
    obtain ⟨k, rfl, text⟩ := exists_of_isWhole h whole
    rw [text, near.unique (.of_natCast k), dropTrailingZeros_pointed (by decide)]
  | false =>
    obtain ⟨p, near', text, -⟩ := exists_rounded h 12
    rw [plain_of_not_isWhole whole, text, near.unique near', String.toList_ofList]

/-- A plain number is read as the number to twelve places. -/
theorem read?_plain_eq (h : Denotes x v) : read? (plain x) = some (roundTo 12 x) := by
  obtain ⟨q, near, -, rounded⟩ := exists_rounded h 12
  obtain ⟨whole, tail, d, text, spells, value, -⟩ := exists_spells_trimmed (show 0 < 12 by decide) q
  have same : d.toFloat = roundTo 12 x := by
    rw [rounded]
    refine Decimal.toFloat_eq (value.trans (value_places q 12).symm) ?_
    rw [value_places]
    exact moderate_of_isRounded h near
  rw [plain_eq h near, text, ← same]
  refine read?_signMark false spells.nonempty spells.digits (spells.ends.imp_right ?_) spells.decimal
  rintro ⟨kept, rfl, -, digits⟩
  exact ⟨kept, rfl, digits⟩

end Teller.Number
