import Teller.Number.Written
import Teller.Proofs.Number.Decimals
import Teller.Proofs.Number.Numerals

/-!
# Reading what is written plainly

A plain number is a numeral. Without the zeros at its end it stands for the same decimal as with
them: for the number to twelve places.

    Fraction.round_le            rounding adds no more than a half
    Fraction.le_round            and takes no more away
    Fraction.even_round          from half way to an even number
    exists_pointed               digits with a point are a numeral for the same digits
    exists_dropTrailingZeros     a numeral without zeros at its end stands for the same decimal
    read?_plain                  a plain number reads as the double for the number to twelve places
    exists_read?_plain           whatever is written plainly is read as a number
-/

namespace Teller.Number

open Text

/-! ## Rounded fractions -/

namespace Fraction

variable {a : Fraction}

theorem value_mul (a b : Fraction) : (a.mul b).value = a.value * b.value := by
  unfold value mul
  rw [Nat.cast_mul, Nat.cast_mul, mul_div_mul_comm]

theorem value_shift (a : Fraction) (places : Int) :
    (a.shift places).value = a.value * (10 : Rat) ^ places := by
  rw [shift, value_mul, value_scaled, Nat.cast_one, one_mul]
  rfl

theorem den_mul_pos {a b : Fraction} (ha : 0 < a.den) (hb : 0 < b.den) : 0 < (a.mul b).den :=
  Nat.mul_pos ha hb

theorem den_shift_pos (h : 0 < a.den) (places : Int) : 0 < (a.shift places).den :=
  den_mul_pos h (den_scaled_pos 1 (by decide) places)

/-- Rounding adds no more than a half. -/
theorem round_le (h : 0 < a.den) : (a.round : Rat) ≤ a.value + 1 / 2 := by
  have parts : a.den * (a.num / a.den) + a.num % a.den = a.num := Nat.div_add_mod ..
  have whole : 2 * (a.round * a.den) ≤ 2 * a.num + a.den := by
    unfold round
    dsimp only
    split
    · rw [Nat.mul_comm (_ / _)]
      omega
    · have even : a.num / a.den % 2 ≤ 1 := by omega
      split
      · rw [Nat.add_mul, Nat.mul_comm (_ / _)]
        omega
      · have := Nat.mul_le_mul_right a.den even
        rw [Nat.add_mul, Nat.mul_comm (_ / _)]
        omega
  have positive : (0 : Rat) < a.den := Nat.cast_pos.2 h
  have cast : 2 * ((a.round : Rat) * a.den) ≤ 2 * a.num + a.den := by exact_mod_cast whole
  unfold value
  rw [← sub_le_iff_le_add, le_div_iff₀ positive]
  linarith

/-- Rounding takes no more than a half away. -/
theorem le_round (h : 0 < a.den) : a.value - 1 / 2 ≤ (a.round : Rat) := by
  have parts : a.den * (a.num / a.den) + a.num % a.den = a.num := Nat.div_add_mod ..
  have whole : 2 * a.num ≤ 2 * (a.round * a.den) + a.den := by
    unfold round
    dsimp only
    rw [Nat.mul_comm a.den] at parts
    split
    · omega
    · split
      · rw [Nat.add_mul]
        have := Nat.mod_lt a.num h
        omega
      · rw [Nat.add_mul]
        omega
  have positive : (0 : Rat) < a.den := Nat.cast_pos.2 h
  have cast : 2 * (a.num : Rat) ≤ 2 * (a.round * a.den) + a.den := by exact_mod_cast whole
  unfold value
  rw [sub_le_iff_le_add, div_le_iff₀ positive]
  linarith

/-- From half way a fraction is rounded to an even number. -/
theorem even_round (h : 0 < a.den) (half : |(a.round : Rat) - a.value| = 1 / 2) : a.round % 2 = 0 := by
  have parts : a.den * (a.num / a.den) + a.num % a.den = a.num := Nat.div_add_mod ..
  have less : a.num % a.den < a.den := Nat.mod_lt _ h
  have positive : (0 : Rat) < a.den := Nat.cast_pos.2 h
  have value : a.value * a.den = a.num := div_mul_cancel₀ _ positive.ne'
  have whole : 2 * (a.round * a.den) = 2 * a.num + a.den ∨ 2 * (a.round * a.den) + a.den = 2 * a.num := by
    rcases (abs_eq (by norm_num)).1 half with above | below
    · left
      have scaled : 2 * ((a.round : Rat) * a.den) = 2 * a.num + a.den := by
        rw [← value, eq_add_of_sub_eq above]
        ring
      exact_mod_cast scaled
    · right
      have scaled : 2 * ((a.round : Rat) * a.den) + a.den = 2 * a.num := by
        rw [← value, eq_add_of_sub_eq below]
        ring
      exact_mod_cast scaled
  unfold round at whole ⊢
  dsimp only at whole ⊢
  rw [Nat.mul_comm a.den] at parts
  split
  · next below =>
    rw [if_pos below] at whole
    omega
  · next not_below =>
    rw [if_neg not_below] at whole
    split
    · next above =>
      rw [if_pos above, Nat.add_mul] at whole
      omega
    · omega

/-- A whole number stays as it is. -/
theorem round_eq (h : a.num % a.den = 0) (pos : 0 < a.den) : a.round = a.num / a.den := by
  unfold round
  dsimp only
  rw [h, if_pos (by omega)]

end Fraction

/-- The size of a double in units of the twelfth place, rounded. -/
def units (m : Nat) (e : Int) : Nat := ((Binary.size m e).shift 12).round

theorem den_size_pos (m : Nat) (e : Int) : 0 < (Binary.size m e).den :=
  Fraction.den_scaled_pos m (by decide) e

theorem units_le (m : Nat) (e : Int) : (units m e : Rat) ≤ weight m e * 10 ^ 12 + 1 / 2 := by
  have := Fraction.round_le (Fraction.den_shift_pos (den_size_pos m e) 12)
  rw [Fraction.value_shift, value_size] at this
  exact this

/-- A whole number is written exactly. -/
theorem units_of_whole {m : Nat} {e : Int} (h : (Binary.size m e).num % (Binary.size m e).den = 0) :
    units m e = (Binary.size m e).num / (Binary.size m e).den * 10 ^ 12 := by
  have pos := den_size_pos m e
  obtain ⟨q, hq⟩ := Nat.dvd_of_mod_eq_zero h
  have num : ((Binary.size m e).shift 12).num = ((Binary.size m e).shift 12).den * (q * 10 ^ 12) := by
    show (Binary.size m e).num * (1 * 10 ^ 12) = (Binary.size m e).den * 1 * (q * 10 ^ 12)
    rw [hq, Nat.one_mul, Nat.mul_one, Nat.mul_assoc]
  have pos' := Fraction.den_shift_pos pos 12
  unfold units
  rw [Fraction.round_eq (by rw [num, Nat.mul_mod_right]) pos', num, Nat.mul_div_cancel_left _ pos', hq,
    Nat.mul_div_cancel_left _ pos]

/-! ## Digits -/

theorem latinDigit_of_isDigit {c : Char} (h : c.isDigit = true) : latinDigit c = c := by
  have := (toNat_of_isDigit h).1
  have same : 48 + (c.toNat - 48) = c.toNat := by omega
  unfold latinDigit digit?
  rw [if_pos h]
  show Char.ofNat (48 + (c.toNat - 48)) = c
  rw [same, Char.ofNat_toNat]

theorem map_latinDigit {cs : List Char} (h : ∀ c ∈ cs, c.isDigit = true) : cs.map latinDigit = cs := by
  rw [List.map_congr_left fun c hc => latinDigit_of_isDigit (h c hc), List.map_id']

theorem isDigit_of_mem_digitsOf {n : Nat} {c : Char} (h : c ∈ digitsOf n) : c.isDigit = true :=
  Nat.isDigit_of_mem_toDigits (by decide) (by decide) h

theorem ofDigits_digitsOf (n : Nat) : ofDigits (digitsOf n) = n := Nat.ofDigitChars_ten_toDigits

theorem ofDigits_append (cs ds : List Char) :
    ofDigits (cs ++ ds) = ofDigits cs * 10 ^ ds.length + ofDigits ds := by
  show Nat.ofDigitChars 10 (cs ++ ds) 0 = Nat.ofDigitChars 10 cs 0 * _ + Nat.ofDigitChars 10 ds 0
  rw [Nat.ofDigitChars_append, Nat.ofDigitChars_eq_ofDigitChars_zero, Nat.mul_comm]

theorem ofDigits_replicate (k : Nat) : ofDigits (List.replicate k '0') = 0 := by
  show Nat.ofDigitChars 10 _ 0 = 0
  rw [Nat.ofDigitChars_replicate_zero]
  rfl

/-- Digits with a point are a numeral for the same digits. -/
theorem exists_pointed {places : Nat} (pos : 0 < places) (n : Nat) :
    ∃ whole fraction, pointed places n = whole ++ '.' :: fraction ∧ whole ≠ [] ∧
      (∀ c ∈ whole, c.isDigit = true) ∧ (∀ c ∈ fraction, c.isDigit = true) ∧
      fraction.length = places ∧ ofDigits (whole ++ fraction) = n := by
  unfold pointed
  dsimp only
  rw [if_neg pos.ne']
  obtain ⟨padded, hp⟩ : ∃ padded, List.replicate (places + 1 - (digitsOf n).length) '0' ++ digitsOf n =
      padded := ⟨_, rfl⟩
  have long : places + 1 ≤ padded.length := by
    rw [← hp, List.length_append, List.length_replicate]
    omega
  have digits : ∀ c ∈ padded, c.isDigit = true := by
    intro c hc
    rw [← hp] at hc
    rcases List.mem_append.1 hc with zero | digit
    · rw [List.eq_of_mem_replicate zero]
      rfl
    · exact isDigit_of_mem_digitsOf digit
  rw [hp]
  refine ⟨_, _, rfl, ?_, ?_, ?_, ?_, ?_⟩
  · apply List.ne_nil_of_length_pos
    rw [List.length_take]
    omega
  · intro c hc
    exact digits c (List.mem_of_mem_take hc)
  · intro c hc
    exact digits c (List.mem_of_mem_drop hc)
  · rw [List.length_drop]
    omega
  · rw [List.take_append_drop, ← hp, ofDigits_append, ofDigits_replicate, ofDigits_digitsOf]
    omega

/-! ## Zeros at the end -/

theorem dropTrailing_append_cons {c d : Char} (ne : d ≠ c) (xs ys : List Char) :
    dropTrailing c (xs ++ d :: ys) = xs ++ d :: dropTrailing c ys := by
  unfold dropTrailing
  rw [List.reverse_append, List.reverse_cons, List.append_assoc, List.dropWhile_append]
  split
  · next all_dropped =>
    rw [List.isEmpty_iff.1 all_dropped, List.cons_append, List.nil_append,
      List.dropWhile_cons_of_neg (by simpa using ne)]
    simp
  · simp

theorem dropTrailing_concat (c : Char) (xs : List Char) :
    dropTrailing c (xs ++ [c]) = dropTrailing c xs := by
  simp [dropTrailing]

/-- Only copies of the character are dropped. -/
theorem exists_append_replicate (c : Char) (cs : List Char) :
    ∃ k, cs = dropTrailing c cs ++ List.replicate k c := by
  refine ⟨(cs.reverse.takeWhile (· == c)).length, ?_⟩
  have copies : cs.reverse.takeWhile (· == c) =
      List.replicate (cs.reverse.takeWhile (· == c)).length c := by
    rw [List.eq_replicate_iff]
    exact ⟨rfl, fun b hb => by simpa using List.mem_takeWhile_imp hb⟩
  rw [dropTrailing, ← List.reverse_replicate, ← copies, ← List.reverse_append,
    List.takeWhile_append_dropWhile, List.reverse_reverse]

/-- The character is not left at the end. -/
theorem getLast?_dropTrailing (c : Char) (cs : List Char) : (dropTrailing c cs).getLast? ≠ some c := by
  intro last
  rw [dropTrailing, List.getLast?_reverse] at last
  have stays := List.head?_dropWhile_not (· == c) cs.reverse
  rw [last] at stays
  simp at stays

/-- A digit at the end stops the removal of a point. -/
theorem dropTrailing_point (xs : List Char) {ds : List Char} (nonempty : ds ≠ [])
    (digits : ∀ c ∈ ds, c.isDigit = true) : dropTrailing '.' (xs ++ ds) = xs ++ ds := by
  obtain ⟨init, last, rfl⟩ := (List.eq_nil_or_concat' ds).resolve_left nonempty
  have ne : last ≠ '.' := by
    rintro rfl
    exact absurd (digits '.' List.mem_concat_self) (by decide)
  rw [← List.append_assoc, dropTrailing_append_cons ne]
  rfl

/-- A numeral without zeros at its end stands for the same decimal, and does not end in a zero
behind the point. -/
theorem exists_dropTrailingZeros (minus : List Char) {whole fraction : List Char} (nonempty : whole ≠ [])
    (digits : ∀ c ∈ whole, c.isDigit = true) (digits' : ∀ c ∈ fraction, c.isDigit = true) :
    ∃ tail d, dropTrailingZeros (minus ++ (whole ++ '.' :: fraction)) = minus ++ (whole ++ tail) ∧
      (tail = [] ∨ ∃ kept, tail = '.' :: kept ∧ kept ≠ [] ∧ (∀ c ∈ kept, c.isDigit = true) ∧
        kept.getLast? ≠ some '0') ∧
      decimal? (whole ++ tail) = some d ∧
      d.value = ofDigits (whole ++ fraction) / (10 : Rat) ^ fraction.length := by
  obtain ⟨k, hk⟩ := exists_append_replicate '0' fraction
  have reduced : dropTrailing '0' (minus ++ (whole ++ '.' :: fraction)) =
      minus ++ whole ++ '.' :: dropTrailing '0' fraction := by
    rw [← List.append_assoc, dropTrailing_append_cons (by decide)]
  have ends := getLast?_dropTrailing '0' fraction
  obtain ⟨kept, h⟩ : ∃ kept, dropTrailing '0' fraction = kept := ⟨_, rfl⟩
  rw [h] at hk reduced ends
  subst hk
  have kept_digits : ∀ c ∈ kept, c.isDigit = true := fun c hc => digits' c (List.mem_append_left _ hc)
  have scaled : (ofDigits (whole ++ (kept ++ List.replicate k '0')) : Rat) /
      (10 : Rat) ^ (kept ++ List.replicate k '0').length =
        ofDigits (whole ++ kept) / (10 : Rat) ^ kept.length := by
    rw [← List.append_assoc, ofDigits_append, ofDigits_replicate, List.length_append,
      List.length_replicate, Nat.add_zero, Nat.cast_mul, Nat.cast_pow, Nat.cast_ofNat, pow_add,
      mul_div_mul_right _ _ (by positivity)]
  rw [scaled, dropTrailingZeros, reduced]
  by_cases none : kept = []
  · -- nothing is left of the fraction, so the point goes too
    subst none
    refine ⟨[], ⟨ofDigits whole, 0⟩, ?_, .inl rfl, ?_, ?_⟩
    · rw [dropTrailing_concat, dropTrailing_point minus nonempty digits, List.append_nil]
    · rw [List.append_nil]
      exact decimal?_whole nonempty digits
    · rw [Decimal.value, zpow_zero, mul_one, List.append_nil, List.length_nil, pow_zero, div_one]
  · refine ⟨_, _, ?_, .inr ⟨kept, rfl, none, kept_digits, ends⟩,
      decimal?_fraction nonempty digits kept_digits, ?_⟩
    · rw [List.append_cons, dropTrailing_point _ none kept_digits]
      simp
    · rw [Decimal.value, zpow_neg, zpow_natCast, div_eq_mul_inv]

/-! ## Plain numbers -/

/-- A numeral in ASCII digits reads as the double for its decimal. -/
theorem read?_signMark (minus : Bool) {whole tail : List Char} {d : Decimal} (nonempty : whole ≠ [])
    (digits : ∀ c ∈ whole, c.isDigit = true)
    (ends : tail = [] ∨ ∃ kept, tail = '.' :: kept ∧ ∀ c ∈ kept, c.isDigit = true)
    (hd : decimal? (whole ++ tail) = some d) :
    read? (String.ofList (signMark minus ++ (whole ++ tail))) =
      some (if minus then -d.toFloat else d.toFloat) := by
  have numeral : IsNumeral (signMark minus) whole tail := by
    refine ⟨?_, nonempty, fun c hc => isDigit_of_ascii (digits c hc), ?_⟩
    · cases minus
      · exact .inl rfl
      · exact .inr rfl
    · rcases ends with rfl | ⟨kept, rfl, kept_digits⟩
      · exact .inl rfl
      · exact .inr ⟨kept, rfl, fun c hc => isDigit_of_ascii (kept_digits c hc)⟩
  have point : latinDigit '.' = '.' := by decide
  have tail_eq : tail.map latinDigit = tail := by
    rcases ends with rfl | ⟨kept, rfl, kept_digits⟩
    · rfl
    · rw [List.map_cons, point, map_latinDigit kept_digits]
  rw [numeral.read?_eq, map_latinDigit digits, tail_eq, hd]
  cases minus <;> rfl

/-- A whole number reads as the double for itself. Zero loses a minus sign. -/
theorem exists_read?_ofInt (negative : Bool) (q : Nat) :
    ∃ minus : Bool, read? (ofInt (signed negative q)) =
        some (if minus then -Decimal.toFloat ⟨q, 0⟩ else Decimal.toFloat ⟨q, 0⟩) ∧
      (minus = negative ∨ q = 0) := by
  have size : (signed negative q).natAbs = q := by
    cases negative <;> simp [signed]
  have nonempty : digitsOf q ≠ [] := Nat.toDigits_ne_nil
  have digits : ∀ c ∈ digitsOf q, c.isDigit = true := fun c => isDigit_of_mem_digitsOf
  have decimal := decimal?_whole nonempty digits
  rw [ofDigits_digitsOf] at decimal
  refine ⟨decide (signed negative q < 0), ?_, ?_⟩
  · rw [ofInt, size, ← List.append_nil (digitsOf q)]
    refine read?_signMark _ nonempty digits (.inl rfl) ?_
    rw [List.append_nil]
    exact decimal
  · cases negative
    · exact .inl (decide_eq_false (Int.not_lt.2 (Int.natCast_nonneg q)))
    · rcases Nat.eq_zero_or_pos q with zero | positive
      · exact .inr zero
      · exact .inl (decide_eq_true (Int.neg_neg_of_pos (Int.natCast_pos.2 positive)))

/-- A plain number reads as the double for the number to twelve places. Zero may lose a minus sign.
-/
theorem read?_plain {y : Float} {negative : Bool} {m : Nat} {e : Int}
    (h : Binary.ofFloat y = .finite negative m e) :
    ∃ (d : Decimal) (minus : Bool), d.value = units m e / (10 : Rat) ^ 12 ∧
      read? (plain y) = some (if minus then -d.toFloat else d.toFloat) ∧
      (minus = negative ∨ d.digits = 0) := by
  unfold plain isWhole truncate?
  rw [h]
  dsimp only
  split
  · next whole trunc =>
    replace whole := beq_iff_eq.1 whole
    cases trunc
    obtain ⟨minus, reads, sign⟩ :=
      exists_read?_ofInt negative ((Binary.size m e).num / (Binary.size m e).den)
    refine ⟨_, minus, ?_, reads, sign⟩
    rw [units_of_whole whole, Decimal.value, zpow_zero, mul_one, Nat.cast_mul, Nat.cast_pow,
      Nat.cast_ofNat, mul_div_cancel_right₀ _ (by positivity)]
  · obtain ⟨whole, fraction, text, nonempty, digits, digits', length, value⟩ :=
      exists_pointed (show 0 < 12 by decide) (units m e)
    obtain ⟨tail, d, dropped, ends, decimal, value'⟩ :=
      exists_dropTrailingZeros (signMark negative) nonempty digits digits'
    refine ⟨d, negative, ?_, ?_, .inl rfl⟩
    · rw [value', value, length]
    · have written_eq : (fixed 12 y).toList = signMark negative ++ (whole ++ '.' :: fraction) := by
        unfold fixed written
        rw [h, ← text]
        exact String.toList_ofList
      rw [written_eq, dropped]
      refine read?_signMark negative nonempty digits (ends.imp_right ?_) decimal
      rintro ⟨kept, same, -, kept_digits, -⟩
      exact ⟨kept, same, kept_digits⟩

theorem plain_of_infinite {y : Float} {negative : Bool} (h : Binary.ofFloat y = .infinite negative) :
    plain y = if negative then "-inf" else "inf" := by
  unfold plain isWhole truncate? fixed written
  rw [h]
  cases negative <;> rfl

theorem plain_of_nan {y : Float} (h : Binary.ofFloat y = .nan) : plain y = "nan" := by
  unfold plain isWhole truncate? fixed written
  rw [h]
  rfl

theorem read?_nan : read? "nan" = some (0 / 0) := by
  have letters : withoutUnderscores? false ((strip isMargin "nan".toList).map latinDigit) =
      some ['n', 'a', 'n'] := rfl
  unfold read?
  dsimp only
  rw [letters]
  rfl

/-- Whatever is written plainly is read as a number. -/
theorem exists_read?_plain (y : Float) : ∃ z, read? (plain y) = some z := by
  cases h : Binary.ofFloat y with
  | finite negative m e =>
    obtain ⟨d, minus, _, reads, _⟩ := read?_plain h
    exact ⟨_, reads⟩
  | infinite negative =>
    rw [plain_of_infinite h]
    cases negative <;> exact ⟨_, rfl⟩
  | nan =>
    rw [plain_of_nan h]
    exact ⟨_, read?_nan⟩

end Teller.Number
