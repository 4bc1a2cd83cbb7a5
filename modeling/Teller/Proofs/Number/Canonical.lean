import Mathlib.Algebra.Order.Field.Power
import Mathlib.Algebra.Order.Field.Rat
import Mathlib.Tactic.FieldSimp
import Mathlib.Tactic.Linarith
import Mathlib.Tactic.NormNum
import Mathlib.Tactic.Positivity
import Mathlib.Tactic.Ring
import Teller.Number.Binary
import Teller.Proofs.Number.Sums

/-!
# The values of doubles

A finite double is `± m · 2 ^ e` in one form only: the exponent is the least one, or the mantissa
has all of its bits. In this form the greater of two doubles is the one of greater value.

    ofFloat_eq_ofUnpacked       the fields of a double are those that it unpacks to
    isCanonical_of_ofBits       a finite double has a canonical form
    unpack_pack                 a canonical form stays as it is when it is packed
    IsNormalized.weight_le_weight_iff      numbers in order of their values
-/

namespace Teller.Number

open Float.Model
open Float.Model.UnpackedFloat (Sign unpackExponent unpackMantissa unpackSign)

/-! ## Weights -/

/-- The number `m · 2 ^ e`. -/
def weight (m : Nat) (e : Int) : Rat := m * 2 ^ e

theorem weight_nonneg (m : Nat) (e : Int) : 0 ≤ weight m e := by
  unfold weight
  positivity

theorem weight_mul_pow (m k : Nat) (e : Int) : weight (m * 2 ^ k) e = weight m (e + k) := by
  unfold weight
  rw [zpow_add₀ (by norm_num), zpow_natCast, Nat.cast_mul, Nat.cast_pow, Nat.cast_ofNat, mul_assoc,
    mul_comm ((2 : Rat) ^ k)]

theorem weight_le_weight {m n : Nat} {e : Int} : weight m e ≤ weight n e ↔ m ≤ n := by
  unfold weight
  rw [mul_le_mul_iff_left₀ (by positivity), Nat.cast_le]

theorem weight_lt_weight {m n : Nat} {e : Int} : weight m e < weight n e ↔ m < n := by
  unfold weight
  rw [mul_lt_mul_iff_left₀ (by positivity), Nat.cast_lt]

theorem weight_le_weight_right {m : Nat} {d e : Int} (h : d ≤ e) : weight m d ≤ weight m e := by
  obtain ⟨k, rfl⟩ := Int.le.dest h
  rw [← weight_mul_pow, weight_le_weight]
  exact Nat.le_mul_of_pos_right m (by positivity)

theorem weight_natCast (n : Nat) : weight n 0 = n := by
  unfold weight
  rw [zpow_zero, mul_one]

theorem weight_mul_weight (k n : Nat) (c e : Int) : weight k c * weight n e = weight (k * n) (c + e) := by
  unfold weight
  rw [zpow_add₀ (by norm_num), Nat.cast_mul]
  ring

theorem weight_sub_div (m k : Nat) (d c : Int) : weight m (d - c) / k = weight m d / weight k c := by
  unfold weight
  rw [zpow_sub₀ (by norm_num)]
  field_simp

theorem weight_shiftLeft {t d : Int} (m : Nat) (h : t ≤ d) :
    weight (m <<< (d - t).toNat) t = weight m d := by
  rw [Nat.shiftLeft_eq, weight_mul_pow]
  congr 1
  omega

/-! ## Fractions -/

/-- The rational number that a fraction stands for. -/
def Fraction.value (a : Fraction) : Rat := a.num / a.den

theorem Fraction.value_scaled (m base : Nat) (e : Int) :
    (Fraction.scaled m base e).value = m * (base : Rat) ^ e := by
  unfold Fraction.value
  cases e with
  | ofNat k =>
    rw [Int.ofNat_eq_natCast, zpow_natCast]
    show ((m * base ^ k : Nat) : Rat) / (1 : Nat) = _
    rw [Nat.cast_one, div_one, Nat.cast_mul, Nat.cast_pow]
  | negSucc k =>
    rw [zpow_negSucc]
    show (m : Rat) / (base ^ (k + 1) : Nat) = _
    rw [Nat.cast_pow, div_eq_mul_inv]

theorem Fraction.den_scaled_pos {base : Nat} (m : Nat) (h : 0 < base) (e : Int) :
    0 < (Fraction.scaled m base e).den := by
  cases e with
  | ofNat k => exact Nat.one_pos
  | negSucc k => exact Nat.pow_pos h

/-- The size of a finite double. -/
theorem value_size (m : Nat) (e : Int) : (Binary.size m e).value = weight m e :=
  Fraction.value_scaled m 2 e

/-! ## Canonical forms -/

/-- A mantissa and an exponent in the form that rounding gives them: the exponent is the least one,
or the mantissa has all of its bits. -/
structure IsNormalized (m : Nat) (e : Int) : Prop where
  small : m < 2 ^ 53
  least : -1074 ≤ e
  full : e = -1074 ∨ 2 ^ 52 ≤ m

/-- The form of a finite double. -/
structure IsCanonical (m : Nat) (e : Int) : Prop extends IsNormalized m e where
  greatest : e ≤ 971

/-- Of two numbers the one with the greater exponent is the greater one. -/
theorem IsNormalized.weight_lt_of_lt {m n : Nat} {d e : Int} (hm : IsNormalized m d)
    (hn : IsNormalized n e) (h : d < e) : weight m d < weight n e := by
  have full : 2 ^ 52 ≤ n := hn.full.resolve_left (by have := hm.least; omega)
  calc weight m d < weight (2 ^ 53) d := weight_lt_weight.2 hm.small
    _ = weight (2 ^ 52) (d + 1) := weight_mul_pow (2 ^ 52) 1 d
    _ ≤ weight (2 ^ 52) e := weight_le_weight_right h
    _ ≤ weight n e := weight_le_weight.2 full

/-- Numbers in order of their values. -/
theorem IsNormalized.weight_le_weight_iff {m n : Nat} {d e : Int} (hm : IsNormalized m d)
    (hn : IsNormalized n e) :
    weight m d ≤ weight n e ↔ ((compare d e).then (compare m n)).isLE = true := by
  rcases lt_trichotomy d e with before | rfl | after
  · rw [Int.compare_eq_lt.2 before]
    exact iff_of_true (hm.weight_lt_of_lt hn before).le rfl
  · rw [Int.compare_eq_eq.2 rfl, weight_le_weight, ← Nat.isLE_compare]
    rfl
  · rw [Int.compare_eq_gt.2 after]
    exact iff_of_false (hn.weight_lt_of_lt hm after).not_ge Bool.false_ne_true

/-- No greater than a double, a number is a double itself. -/
theorem IsNormalized.isCanonical_of_le {m n : Nat} {d e : Int} (hm : IsNormalized m d)
    (hn : IsCanonical n e) (h : weight m d ≤ weight n e) : IsCanonical m d := by
  refine ⟨hm, ?_⟩
  by_contra far
  have := hn.greatest
  exact absurd h (hn.toIsNormalized.weight_lt_of_lt hm (by omega)).not_ge

/-! ## The fields of a double -/

/-- What an unpacked double stands for. -/
def Binary.ofUnpacked : UnpackedFloat → Binary
  | .notANumber => .nan
  | .infinity s => .infinite (s == .negative)
  | .zero s => .finite (s == .negative) 0 (-1074)
  | .finite s m e _ => .finite (s == .negative) m e

theorem toNat_unpackMantissa (b : BitVec Format.binary64.numBits) :
    (unpackMantissa b).toNat = b.toNat % Binary.leadingBit := by
  show ((b.extractLsb 51 0).cast _).toNat = _
  rw [BitVec.toNat_cast, BitVec.extractLsb_toNat]
  rfl

theorem toNat_unpackExponent (b : BitVec Format.binary64.numBits) :
    (unpackExponent b).toNat = b.toNat / Binary.leadingBit % 2048 := by
  show ((b.extractLsb 62 52).cast _).toNat = _
  rw [BitVec.toNat_cast, BitVec.extractLsb_toNat, Nat.shiftRight_eq_div_pow]
  rfl

theorem toNat_unpackSign (b : BitVec Format.binary64.numBits) :
    (unpackSign b).toNat = b.toNat / Binary.leadingBit / 2048 % 2 := by
  show ((b.extractLsb 63 63).cast _).toNat = _
  rw [BitVec.toNat_cast, BitVec.extractLsb_toNat, Nat.shiftRight_eq_div_pow, Nat.div_div_eq_div_mul]
  rfl

theorem ofBitVec_beq_negative (b : BitVec 1) : (Sign.ofBitVec b == .negative) = (b.toNat == 1) := by
  unfold Sign.ofBitVec
  by_cases h : b = 0#1
  · subst h
    rfl
  · have one : b = 1#1 := (BitVec.eq_zero_or_eq_one b).resolve_left h
    subst one
    rfl

theorem ofBits_eq_ofUnpacked (b : BitVec Format.binary64.numBits) :
    Binary.ofBits b.toNat = Binary.ofUnpacked (UnpackedFloat.unpack Format.binary64 b) := by
  have all_ones : unpackExponent b = -BitVec.ofNat _ 1 ↔
      b.toNat / Binary.leadingBit % 2048 = 2047 := by
    rw [← BitVec.toNat_inj, toNat_unpackExponent]
    rfl
  have no_exponent : unpackExponent b = BitVec.ofNat _ 0 ↔
      b.toNat / Binary.leadingBit % 2048 = 0 := by
    rw [← BitVec.toNat_inj, toNat_unpackExponent]
    rfl
  have no_mantissa : unpackMantissa b = BitVec.ofNat _ 0 ↔ b.toNat % Binary.leadingBit = 0 := by
    rw [← BitVec.toNat_inj, toNat_unpackMantissa]
    rfl
  unfold Binary.ofBits UnpackedFloat.unpack
  dsimp only
  rw [← toNat_unpackSign, ← ofBitVec_beq_negative]
  by_cases special : b.toNat / Binary.leadingBit % 2048 = 2047
  · rw [if_pos special, if_pos (all_ones.2 special)]
    by_cases zero : b.toNat % Binary.leadingBit = 0
    · rw [if_pos zero, if_pos (no_mantissa.2 zero)]
      rfl
    · rw [if_neg zero, if_neg (zero ∘ no_mantissa.1)]
      rfl
  · rw [if_neg special, if_neg (special ∘ all_ones.1)]
    by_cases subnormal : b.toNat / Binary.leadingBit % 2048 = 0
    · rw [if_pos subnormal, if_pos (no_exponent.2 subnormal)]
      by_cases zero : b.toNat % Binary.leadingBit = 0
      · rw [dif_pos (no_mantissa.2 zero), zero]
        rfl
      · rw [dif_neg (zero ∘ no_mantissa.1)]
        show Binary.finite _ _ (-1074) = Binary.finite _ (unpackMantissa b).toNat
          ((unpackExponent b).toNat - 1075 + 1)
        rw [toNat_unpackMantissa, toNat_unpackExponent, subnormal]
        rfl
    · rw [if_neg subnormal, if_neg (subnormal ∘ no_exponent.1)]
      show _ = Binary.finite _ (1#1 ++ unpackMantissa b).toNat ((unpackExponent b).toNat - 1075)
      rw [BitVec.toNat_append, toNat_unpackExponent, ← Nat.shiftLeft_add_eq_or_of_lt
        (unpackMantissa b).isLt, toNat_unpackMantissa, Nat.add_comm]
      rfl

/-- The fields of a double are those that it unpacks to. -/
theorem ofFloat_eq_ofUnpacked (x : Float) :
    Binary.ofFloat x = Binary.ofUnpacked x.toModel.unpack :=
  ofBits_eq_ofUnpacked x.toModel.toBits.toBitVec

/-- A finite double has a canonical form. -/
theorem isCanonical_of_ofBits {bits : Nat} {negative : Bool} {m : Nat} {e : Int}
    (h : Binary.ofBits bits = .finite negative m e) : IsCanonical m e := by
  unfold Binary.ofBits Binary.leadingBit at h
  dsimp only at h
  split at h
  · split at h <;> cases h
  · split at h
    · cases h
      exact ⟨⟨by omega, by omega, .inl rfl⟩, by omega⟩
    · cases h
      exact ⟨⟨by omega, by omega, .inr (by omega)⟩, by omega⟩

theorem isCanonical_of_unpack {x : Float} {s : Sign} {m : Nat} {e : Int} {pos : 0 < m}
    (h : x.toModel.unpack = .finite s m e pos) : IsCanonical m e := by
  have same := ofFloat_eq_ofUnpacked x
  rw [h] at same
  exact isCanonical_of_ofBits same

theorem beq_negative_injective {s t : Sign} (h : (s == .negative) = (t == .negative)) : s = t := by
  cases s <;> cases t <;> first | rfl | exact absurd h (by decide)

theorem eq_finite_of_ofUnpacked {u : UnpackedFloat} {s : Sign} {m : Nat} {e : Int}
    (h : Binary.ofUnpacked u = .finite (s == .negative) m e) (pos : 0 < m) :
    u = .finite s m e pos := by
  cases u with
  | notANumber | infinity t => cases h
  | zero t =>
    injection h with _ zero
    exact absurd pos (by omega)
  | finite t n d pos' =>
    injection h with sign mantissa exponent
    cases mantissa
    cases exponent
    rw [beq_negative_injective sign]

/-! ## Packing -/

theorem toNat_packComponents (s : Sign) (exponent : BitVec Format.binary64.exponentBits)
    (mantissa : BitVec Format.binary64.mantissaBitsWithoutImplicit) :
    (UnpackedFloat.packComponents Format.binary64 s exponent mantissa).toNat =
      (s.toBitVec.toNat * 2048 + exponent.toNat) * Binary.leadingBit + mantissa.toNat := by
  unfold UnpackedFloat.packComponents
  rw [BitVec.toNat_append, BitVec.toNat_append, ← Nat.shiftLeft_add_eq_or_of_lt exponent.isLt,
    ← Nat.shiftLeft_add_eq_or_of_lt mantissa.isLt, Nat.shiftLeft_eq, Nat.shiftLeft_eq]
  rfl

/-- The fields of the bits are those that they were put together from. -/
theorem ofBits_fields (s : Sign) {exponent fraction : Nat} (special : exponent < 2047)
    (h : fraction < Binary.leadingBit) :
    Binary.ofBits ((s.toBitVec.toNat * 2048 + exponent) * Binary.leadingBit + fraction) =
      if exponent = 0 then .finite (s == .negative) fraction (-1074)
      else .finite (s == .negative) (fraction + Binary.leadingBit) ((exponent : Int) - 1075) := by
  have fraction_eq : ((s.toBitVec.toNat * 2048 + exponent) * Binary.leadingBit + fraction) %
      Binary.leadingBit = fraction := by
    rw [Nat.mul_add_mod_self_right, Nat.mod_eq_of_lt h]
  have rest_eq : ((s.toBitVec.toNat * 2048 + exponent) * Binary.leadingBit + fraction) /
      Binary.leadingBit = s.toBitVec.toNat * 2048 + exponent := by
    rw [Nat.mul_comm, Nat.mul_add_div (by decide), Nat.div_eq_of_lt h, Nat.add_zero]
  have sign : s.toBitVec.toNat < 2 := s.toBitVec.isLt
  have exponent_eq : (s.toBitVec.toNat * 2048 + exponent) % 2048 = exponent := by omega
  have sign_eq : (s.toBitVec.toNat * 2048 + exponent) / 2048 % 2 = s.toBitVec.toNat := by omega
  unfold Binary.ofBits
  dsimp only
  rw [fraction_eq, rest_eq, exponent_eq, sign_eq, if_neg special.ne]
  cases s <;> rfl

theorem log2_add_one_eq_iff {m : Nat} (small : m < 2 ^ 53) :
    m.log2 + 1 = Format.binary64.mantissaBits ↔ 2 ^ 52 ≤ m := by
  show m.log2 + 1 = 53 ↔ _
  constructor
  · intro log
    have nonzero : m ≠ 0 := by
      rintro rfl
      cases log
    have := Nat.log2_self_le nonzero
    rwa [show m.log2 = 52 by omega] at this
  · intro full
    have nonzero : m ≠ 0 := by
      rintro rfl
      cases full
    rw [(Nat.log2_eq_iff nonzero).2 ⟨full, small⟩]

/-- A canonical form stays as it is when it is packed. -/
theorem unpack_pack (s : Sign) {m : Nat} {e : Int} (pos : 0 < m) (h : IsCanonical m e) :
    (Float.Model.pack (.finite s m e pos)).unpack = .finite s m e pos := by
  apply eq_finite_of_ofUnpacked
  show Binary.ofUnpacked (UnpackedFloat.unpack Format.binary64
    (UnpackedFloat.pack Format.binary64 _)) = _
  obtain ⟨⟨small, least, full⟩, greatest⟩ := h
  have biased : e + Format.binary64.exponentBias + Format.binary64.mantissaBitsWithoutImplicit =
      e + 1075 := by
    show e + 1023 + 52 = e + 1075
    omega
  rw [← ofBits_eq_ofUnpacked]
  unfold UnpackedFloat.pack
  dsimp only
  rw [biased, if_neg (by show ¬2048 ≤ (e + 1075).toNat + 1; omega)]
  by_cases normal : 2 ^ 52 ≤ m
  · rw [if_pos ((log2_add_one_eq_iff small).2 normal), toNat_packComponents, BitVec.toNat_ofNat,
      BitVec.toNat_ofNat]
    show Binary.ofBits ((_ * 2048 + (e + 1075).toNat % 2048) * _ + m % Binary.leadingBit) = _
    rw [Nat.mod_eq_of_lt (by omega), ofBits_fields s (by omega) (Nat.mod_lt _ (by decide)),
      if_neg (by omega)]
    congr 1
    · unfold Binary.leadingBit
      omega
    · omega
  · rw [if_neg (normal ∘ (log2_add_one_eq_iff small).1), toNat_packComponents, BitVec.toNat_ofNat,
      BitVec.toNat_ofNat]
    show Binary.ofBits ((_ * 2048 + 0) * _ + m % Binary.leadingBit) = _
    rw [Nat.mod_eq_of_lt (by unfold Binary.leadingBit; omega),
      ofBits_fields s (by decide) (by unfold Binary.leadingBit; omega), if_pos rfl,
      full.resolve_right normal]

/-! ## Doubles in order of their values -/

theorem not_isNaN_of_unpack {x : Float} {u : UnpackedFloat} (h : x.toModel.unpack = u)
    (number : u.isNaN = false) : x.isNaN = false := by
  show x.toModel.unpack.isNaN = false
  rw [h]
  exact number

/-- Of two positive doubles the one of greater value is the greater one. -/
theorem le_of_weight_le {x y : Float} {m n : Nat} {d e : Int} {pos : 0 < m} {pos' : 0 < n}
    (hx : x.toModel.unpack = .finite .positive m d pos)
    (hy : y.toModel.unpack = .finite .positive n e pos') (h : weight m d ≤ weight n e) : x ≤ y := by
  rw [(isCanonical_of_unpack hx).weight_le_weight_iff (isCanonical_of_unpack hy).toIsNormalized] at h
  refine (le_iff x y).2 ⟨not_isNaN_of_unpack hx rfl, not_isNaN_of_unpack hy rfl, ?_⟩
  rw [order, hx, hy]
  show (Place.compare ⟨1, d, m⟩ ⟨1, e, n⟩).isLE = true
  rw [compare_above_zero]
  exact h

end Teller.Number
