import Teller.Number.Decimal
import Teller.Proofs.Number.Rounding

/-!
# Decimals below doubles

The double for a decimal is never greater than a double that the decimal does not exceed. A short
decimal is a whole number times a power of ten or over one, both of which are doubles; a long one is
rounded once.

    exactlyRepresentable         the powers of ten up to `10 ^ 22` are doubles
    upTo_scientific              decimals that are rounded once
    upTo_short                   decimals with a double for their digits
    upTo_ofScientific            decimals of moderate size
    Decimal.upTo_toFloat         the double for a decimal stays below what doubles bound
-/

namespace Teller.Number

open Float.Model
open Float.Model.UnpackedFloat (Sign)

/-! ## Powers of ten -/

/-- The double is a power of ten and has all the bits of its mantissa. -/
def isPowerOfTen (k : Nat) (x : Float) : Bool :=
  match Binary.ofFloat x with
  | .finite false m e => 2 ^ 52 ≤ m && (Binary.size m e).num == 10 ^ k * (Binary.size m e).den
  | _ => false

theorem isPowerOfTen_table : ∀ k, ∀ _ : k < Float.exactlyRepresentablePowersOfTen.size,
    isPowerOfTen k Float.exactlyRepresentablePowersOfTen[k] = true := by
  decide +kernel

theorem fields_of_isPowerOfTen {k : Nat} {x : Float} (h : isPowerOfTen k x = true) :
    ∃ m e, Binary.ofFloat x = .finite false m e ∧ 2 ^ 52 ≤ m ∧ weight m e = 10 ^ k := by
  unfold isPowerOfTen at h
  split at h
  · next m e fields =>
    obtain ⟨full, exact⟩ := Bool.and_eq_true_iff.1 h
    refine ⟨m, e, fields, of_decide_eq_true full, ?_⟩
    have den : ((Binary.size m e).den : Rat) ≠ 0 :=
      Nat.cast_ne_zero.2 (Fraction.den_scaled_pos m (by decide) e).ne'
    rw [← value_size, Fraction.value, beq_iff_eq.1 exact, Nat.cast_mul,
      mul_div_cancel_right₀ _ den, Nat.cast_pow]
    rfl
  · cases h

/-- The powers of ten up to `10 ^ 22` are doubles. -/
theorem exactlyRepresentable {k : Nat} (h : k < Float.exactlyRepresentablePowersOfTen.size) :
    ∃ m e, ∃ pos : 0 < m, Float.exactlyRepresentablePowersOfTen[k].toModel.unpack =
      .finite .positive m e pos ∧ 2 ^ 52 ≤ m ∧ weight m e = 10 ^ k := by
  obtain ⟨m, e, fields, full, exact⟩ := fields_of_isPowerOfTen (isPowerOfTen_table k h)
  rw [ofFloat_eq_ofUnpacked] at fields
  exact ⟨m, e, by omega, eq_finite_of_ofUnpacked fields _, full, exact⟩

/-! ## Decimals that are rounded -/

variable {digits n : Nat} {e : Int}

/-- Decimals that are rounded once. -/
theorem upTo_scientific (pos : 0 < digits) {exponent : Int} (moderate : exponent ≤ 2048)
    (hn : IsCanonical n e) (le : digits * (10 : Rat) ^ exponent ≤ weight n e) :
    UpTo .positive (weight n e) (UnpackedFloat.ofScientific Format.binary64 digits exponent) := by
  have greatest : (2 : Int) ^ Format.binary64.exponentBits = 2048 := rfl
  unfold UnpackedFloat.ofScientific
  rw [dif_neg pos.ne', greatest, if_neg (Int.not_lt.2 moderate)]
  by_cases tiny : exponent < -(2048 + (digits.log2 : Int))
  · rw [if_pos tiny]
    exact .zero _
  · rw [if_neg tiny]
    by_cases whole : 0 ≤ exponent
    · rw [if_pos whole]
      obtain ⟨k, rfl⟩ := Int.eq_ofNat_of_zero_le whole
      have shifted : weight (digits <<< 53) (-53) = digits := by
        rw [Nat.shiftLeft_eq, weight_mul_pow]
        exact weight_natCast digits
      refine upTo_mul _ _ ?_ hn ?_
      · show 2 ^ 52 ≤ digits <<< 53 * 10 ^ k
        have := Nat.pow_pos (n := k) (show 0 < 10 by decide)
        have := Nat.le_mul_of_pos_right (digits <<< 53) this
        rw [Nat.shiftLeft_eq] at *
        omega
      · show weight (digits <<< 53) (-53) * weight (10 ^ k) 0 ≤ weight n e
        rw [shifted, weight_natCast, Nat.cast_pow]
        rw [zpow_natCast] at le
        exact le
    · rw [if_neg whole]
      obtain ⟨k, hk⟩ := Int.eq_ofNat_of_zero_le (show 0 ≤ -exponent by omega)
      refine upTo_div _ _ hn ?_
      rw [hk, weight_natCast, weight_natCast, Int.toNat_natCast, Nat.cast_pow]
      rw [← neg_neg exponent, hk, zpow_neg, zpow_natCast, ← div_eq_mul_inv] at le
      exact le

/-- The product or the quotient of a short whole number and a power of ten. -/
theorem upTo_short (pos : 0 < digits) (short : digits < 2 ^ 53) {negative : Bool} {k : Nat}
    (listed : k < Float.exactlyRepresentablePowersOfTen.size) (hn : IsCanonical n e)
    (le : digits * (10 : Rat) ^ (signed negative k) ≤ weight n e) :
    UpTo .positive (weight n e)
      (if negative then digits.toUInt64.toFloat / Float.exactlyRepresentablePowersOfTen[k]
        else digits.toUInt64.toFloat * Float.exactlyRepresentablePowersOfTen[k]).toModel.unpack := by
  obtain ⟨m, c, pos', power, full, value⟩ := exactlyRepresentable listed
  have whole : UpTo .positive digits (digits.toUInt64.toFloat).toModel.unpack := by
    refine UpTo.unpack_pack ?_
    show UpTo .positive digits (UnpackedFloat.ofNat Format.binary64 digits.toUInt64.toNat)
    rw [Nat.toUInt64_eq, UInt64.toNat_ofNat_of_lt' (short.trans (by decide))]
    exact upTo_ofNat pos short
  cases negative with
  | true =>
    refine UpTo.unpack_pack ?_
    show UpTo _ _ (UnpackedFloat.div _ _ Float.exactlyRepresentablePowersOfTen[k].toModel.unpack)
    rw [power]
    refine whole.div pos' hn ?_
    rw [value, div_eq_mul_inv, ← zpow_natCast, ← zpow_neg]
    exact le
  | false =>
    refine UpTo.unpack_pack ?_
    show UpTo _ _ (UnpackedFloat.mul _ _ Float.exactlyRepresentablePowersOfTen[k].toModel.unpack)
    rw [power]
    refine whole.mul pos' full hn ?_
    rw [value, ← zpow_natCast]
    exact le

/-- Decimals of moderate size. -/
theorem upTo_ofScientific (pos : 0 < digits) {negative : Bool} {k : Nat}
    (moderate : signed negative k ≤ 2048) (hn : IsCanonical n e)
    (le : digits * (10 : Rat) ^ (signed negative k) ≤ weight n e) :
    UpTo .positive (weight n e) (Float.ofScientific digits negative k).toModel.unpack := by
  unfold Float.ofScientific
  split
  · next short => exact upTo_short pos short.1 (Nat.lt_succ_of_le short.2) hn le
  · have exponent_eq :
        (if negative = true then Int.negOfNat k else Int.ofNat k) = signed negative k := by
      cases negative with
      | true => exact Int.negOfNat_eq
      | false => rfl
    dsimp only
    rw [exponent_eq]
    exact UpTo.unpack_pack (upTo_scientific pos moderate hn le)

/-! ## The double for a decimal -/

def Decimal.value (d : Decimal) : Rat := d.digits * (10 : Rat) ^ d.exponent

theorem digitCount_pos (n : Nat) : 0 < digitCount n := Nat.length_toDigits_pos

theorem pow_digitCount_le {n : Nat} (pos : 0 < n) : 10 ^ (digitCount n - 1) ≤ n := by
  rcases Nat.eq_zero_or_pos (digitCount n - 1) with none | some
  · rw [none]
    exact pos
  · by_contra short
    have := (Nat.length_toDigits_le_iff (by decide) some).2 (Nat.lt_of_not_le short)
    have := digitCount_pos n
    unfold digitCount at *
    omega

/-- Doubles are below the least number of 310 digits. -/
theorem IsCanonical.weight_lt {m : Nat} (h : IsCanonical m e) : weight m e < 10 ^ 309 := by
  calc weight m e < weight (2 ^ 53) e := weight_lt_weight.2 h.small
    _ ≤ weight (2 ^ 53) 971 := weight_le_weight_right h.greatest
    _ = weight (2 ^ 53 * 2 ^ 971) 0 := (weight_mul_pow (2 ^ 53) 971 0).symm
    _ = (2 ^ 53 * 2 ^ 971 : Nat) := weight_natCast _
    _ < (10 ^ 309 : Nat) := Nat.cast_lt.2 (by decide +kernel)
    _ = 10 ^ 309 := by rw [Nat.cast_pow]; rfl

/-- A decimal of so many digits is beyond all doubles. -/
theorem Decimal.pow_le_value {d : Decimal} (pos : 0 < d.digits)
    (far : 310 < (digitCount d.digits : Int) + d.exponent) : (10 : Rat) ^ 309 ≤ d.value := by
  have leading := digitCount_pos d.digits
  have positive : (0 : Rat) < 10 ^ d.exponent := by positivity
  have digits : (10 : Rat) ^ (digitCount d.digits - 1) ≤ d.digits := by
    exact_mod_cast pow_digitCount_le pos
  calc (10 : Rat) ^ 309 = 10 ^ (309 : Int) := (zpow_natCast _ 309).symm
    _ ≤ 10 ^ (((digitCount d.digits - 1 : Nat) : Int) + d.exponent) :=
      zpow_le_zpow_right₀ (by norm_num) (by omega)
    _ = 10 ^ (digitCount d.digits - 1) * 10 ^ d.exponent := by
      rw [zpow_add₀ (by norm_num), zpow_natCast]
    _ ≤ d.value := mul_le_mul_of_nonneg_right digits positive.le

/-- The double for a decimal stays below what doubles bound. -/
theorem Decimal.upTo_toFloat {d : Decimal} (hn : IsCanonical n e) (le : d.value ≤ weight n e) :
    UpTo .positive (weight n e) d.toFloat.toModel.unpack := by
  have zero : UpTo .positive (weight n e) (0 : Float).toModel.unpack := .zero .positive
  unfold Decimal.toFloat
  dsimp only
  split
  · exact zero
  · next moderate =>
    obtain ⟨nonzero, -⟩ := Bool.or_eq_false_iff.1 (eq_false_of_ne_true moderate)
    have pos : 0 < d.digits := Nat.pos_of_ne_zero (of_decide_eq_false nonzero)
    split
    · next far => exact absurd ((Decimal.pow_le_value pos far).trans le) hn.weight_lt.not_ge
    · next near =>
      have exponent_eq : signed (decide (d.exponent < 0)) d.exponent.natAbs = d.exponent := by
        unfold signed
        simp only [decide_eq_true_eq]
        omega
      refine upTo_ofScientific pos ?_ hn ?_
      · rw [exponent_eq]
        omega
      · rw [exponent_eq]
        exact le

end Teller.Number
