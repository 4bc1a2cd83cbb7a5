import Mathlib.Tactic.Ring
import Teller.Proofs.Number.Canonical

/-!
# Rounding stays below what doubles bound

A shift of the mantissa remembers whether a bit was lost. A mantissa is rounded up only if one was,
and so never beyond a double that was no smaller than the exact number. This bounds products and
quotients.

    Tracks.shiftRight            a shift keeps track of the exact number
    upTo_roundWithAccuracy       rounding stays below what doubles bound
    UpTo.mul, UpTo.div           products and quotients
    upTo_ofNat                   whole numbers below `2 ^ 53`
    UpTo.le                      a double up to the value of another one
-/

namespace Teller.Number

open Float.Model
open Float.Model.UnpackedFloat (Sign Accuracy ExtendedMantissa accuracyOfFraction shiftToTargetExponent
  roundWithAccuracy)

/-! ## Shifts -/

/-- What is left of the number `v` when bits have been shifted out of its mantissa: no more than
`v`, and less than `v` if one of those bits was set. -/
structure Tracks (em : ExtendedMantissa) (e : Int) (v : Rat) : Prop where
  lower : weight em.mantissa e ≤ v
  strict : em.roundBit = true ∨ em.stickyBit = true → weight em.mantissa e < v

namespace Tracks

variable {em : ExtendedMantissa} {e : Int} {v : Rat}

theorem shiftRightOne (h : Tracks em e v) : Tracks em.shiftRightOne (e + 1) v := by
  have halved : weight (em.mantissa / 2) (e + 1) = weight (em.mantissa / 2 * 2) e :=
    (weight_mul_pow _ 1 e).symm
  constructor
  · show weight (em.mantissa / 2) (e + 1) ≤ v
    rw [halved]
    exact (weight_le_weight.2 (Nat.div_mul_le_self ..)).trans h.lower
  · intro lost
    show weight (em.mantissa / 2) (e + 1) < v
    rw [halved]
    rcases lost with odd | lost
    · have odd : em.mantissa % 2 ≠ 0 := bne_iff_ne.1 odd
      exact (weight_lt_weight.2 (by omega)).trans_le h.lower
    · exact (weight_le_weight.2 (Nat.div_mul_le_self ..)).trans_lt (h.strict (Bool.or_eq_true_iff.1 lost))

/-- A shift keeps track of the exact number. -/
theorem shiftRight (h : Tracks em e v) (n : Nat) : Tracks (em >>> n) (e + n) v := by
  induction n with
  | zero =>
    rw [Nat.cast_zero, add_zero]
    exact h
  | succ n ih =>
    rw [Nat.cast_succ, ← add_assoc]
    exact ih.shiftRightOne

theorem exact {m : Nat} (h : weight m e ≤ v) :
    Tracks (ExtendedMantissa.ofMantissaAndAccuracy m .exact) e v where
  lower := h
  strict lost := by rcases lost with lost | lost <;> cases lost

theorem inexact {m : Nat} (h : weight m e < v) (o : Ordering) :
    Tracks (ExtendedMantissa.ofMantissaAndAccuracy m (.inexact o)) e v := by
  cases o <;> exact ⟨h.le, fun _ => h⟩

end Tracks

theorem mantissa_shiftRight (em : ExtendedMantissa) (n : Nat) :
    (em >>> n).mantissa = em.mantissa / 2 ^ n := by
  induction n with
  | zero => exact (Nat.div_one _).symm
  | succ n ih =>
    show (em >>> n).mantissa / 2 = _
    rw [ih, Nat.div_div_eq_div_mul, ← Nat.pow_succ]

theorem mantissa_ofMantissaAndAccuracy (m : Nat) (a : Accuracy) :
    (ExtendedMantissa.ofMantissaAndAccuracy m a).mantissa = m := by
  cases a with
  | exact => rfl
  | inexact o => cases o <;> rfl

/-- The mantissa has all of its bits, or the exponent leaves room for them. -/
def Fits (m : Nat) (e : Int) : Prop := e ≤ -1074 ∨ 2 ^ 52 ≤ m

/-- A shift to the target exponent leaves just the bits of a mantissa. -/
theorem isNormalized_shiftToTargetExponent {m : Nat} {e : Int} (fits : Fits m e) (a : Accuracy) :
    IsNormalized (shiftToTargetExponent Format.binary64 m e a).1.mantissa
      (shiftToTargetExponent Format.binary64 m e a).2 := by
  obtain ⟨n, hn⟩ : ∃ n : Nat, (Format.binary64.targetExponent (totalExponent m e) - e).toNat = n :=
    ⟨_, rfl⟩
  have target : Format.binary64.targetExponent (totalExponent m e) =
      max ((m.log2 : Int) + 1 + e - 53) (-1074) := rfl
  rw [target] at hn
  show IsNormalized
    (ExtendedMantissa.ofMantissaAndAccuracy m a >>> (Format.binary64.targetExponent _ - e).toNat).mantissa
    (e + ((Format.binary64.targetExponent _ - e).toNat : Nat))
  rw [target, hn, mantissa_shiftRight, mantissa_ofMantissaAndAccuracy]
  refine ⟨?_, by omega, ?_⟩
  · rw [Nat.div_lt_iff_lt_mul (by positivity), ← Nat.pow_add]
    exact Nat.lt_log2_self.trans_le (Nat.pow_le_pow_right (by decide) (by omega))
  · rcases Classical.em (e + n = -1074) with least | above
    · exact .inl least
    · right
      have log : 52 ≤ m.log2 := by
        rcases fits with low | full
        · omega
        · exact (Nat.le_log2 (by omega)).2 full
      have nonzero : m ≠ 0 := by
        rintro rfl
        exact absurd log (by decide)
      rw [Nat.le_div_iff_mul_le (by positivity), ← Nat.pow_add]
      exact (Nat.pow_le_pow_right (by decide) (by omega)).trans (Nat.log2_self_le nonzero)

theorem Tracks.shiftToTargetExponent {m : Nat} {e : Int} {a : Accuracy} {v : Rat}
    (h : Tracks (ExtendedMantissa.ofMantissaAndAccuracy m a) e v) :
    Tracks (shiftToTargetExponent Format.binary64 m e a).1
      (shiftToTargetExponent Format.binary64 m e a).2 v :=
  h.shiftRight _

/-! ## Rounding -/

/-- A mantissa is rounded to itself or to the next one, and to the next one only if a bit was lost.
-/
theorem roundedMantissa_cases (em : ExtendedMantissa) :
    em.roundedMantissa = em.mantissa ∨
      em.roundedMantissa = em.mantissa + 1 ∧ (em.roundBit = true ∨ em.stickyBit = true) := by
  obtain ⟨m, round, sticky⟩ := em
  cases round with
  | false => cases sticky <;> exact .inl rfl
  | true =>
    cases sticky with
    | true => exact .inr ⟨rfl, .inl rfl⟩
    | false =>
      show m + m % 2 = m ∨ m + m % 2 = m + 1 ∧ _
      rcases Nat.mod_two_eq_zero_or_one m with even | odd
      · exact .inl (by rw [even, Nat.add_zero])
      · exact .inr ⟨by rw [odd], .inl rfl⟩

/-- A mantissa is not rounded beyond a number in normal form that was no smaller than the exact one.
-/
theorem weight_roundedMantissa_le {em : ExtendedMantissa} {d e : Int} {v : Rat} {n : Nat}
    (tracks : Tracks em d v) (hm : IsNormalized em.mantissa d) (hn : IsNormalized n e)
    (h : v ≤ weight n e) : weight em.roundedMantissa d ≤ weight n e := by
  rcases Int.lt_or_le e d with below | above
  · -- the bound would be smaller than what is left of the exact number
    exact absurd (tracks.lower.trans h) (hn.weight_lt_of_lt hm below).not_ge
  · obtain ⟨k, rfl⟩ := Int.le.dest above
    rw [← weight_mul_pow] at h ⊢
    rw [weight_le_weight]
    rcases roundedMantissa_cases em with same | ⟨next, lost⟩
    · rw [same]
      exact weight_le_weight.1 (tracks.lower.trans h)
    · rw [next]
      exact weight_lt_weight.1 ((tracks.strict lost).trans_le h)

/-- Zero, or a double of a given sign whose size is within a bound. -/
inductive UpTo (s : Sign) (bound : Rat) : UnpackedFloat → Prop where
  | zero (t : Sign) : UpTo s bound (.zero t)
  | finite {m : Nat} {e : Int} {pos : 0 < m} (canonical : IsCanonical m e) (le : weight m e ≤ bound) :
      UpTo s bound (.finite s m e pos)

/-- Rounding stays below what doubles bound. -/
theorem upTo_roundWithAccuracy (s : Sign) {m n : Nat} {d e : Int} {a : Accuracy} {v : Rat}
    (fits : Fits m d) (tracks : Tracks (ExtendedMantissa.ofMantissaAndAccuracy m a) d v)
    (hn : IsCanonical n e) (h : v ≤ weight n e) :
    UpTo s (weight n e) (roundWithAccuracy Format.binary64 s m d a) := by
  have first := isNormalized_shiftToTargetExponent fits a
  have bounded := weight_roundedMantissa_le tracks.shiftToTargetExponent first hn.toIsNormalized h
  unfold roundWithAccuracy
  dsimp only
  generalize shiftToTargetExponent Format.binary64 m d a = shifted at *
  obtain ⟨em, d'⟩ := shifted
  dsimp only at *
  -- the mantissa may have become one bit longer; a second shift loses nothing but that bit
  have fits' : Fits em.roundedMantissa d' := by
    rcases first.full with least | full
    · exact .inl least.le
    · right
      rcases roundedMantissa_cases em with same | ⟨next, -⟩ <;> omega
  have second := isNormalized_shiftToTargetExponent fits' .exact
  have bounded' := (Tracks.exact bounded).shiftToTargetExponent.lower
  by_cases zero : (shiftToTargetExponent Format.binary64 em.roundedMantissa d' .exact).1.mantissa = 0
  · rw [dif_pos zero]
    exact .zero _
  · rw [dif_neg zero]
    exact .finite (second.isCanonical_of_le hn bounded') bounded'

theorem UpTo.unpack_pack {s : Sign} {v : Rat} {u : UnpackedFloat} (h : UpTo s v u) :
    UpTo s v (Float.Model.pack u).unpack := by
  cases h with
  | zero t => cases t <;> exact .zero _
  | finite canonical le =>
    rw [Number.unpack_pack _ _ canonical]
    exact .finite canonical le

/-- A double up to the value of another one. -/
theorem UpTo.le {x y : Float} {m : Nat} {e : Int} {pos : 0 < m}
    (h : UpTo .positive (weight m e) x.toModel.unpack)
    (hy : y.toModel.unpack = .finite .positive m e pos) : x ≤ y := by
  generalize hx : x.toModel.unpack = u at h
  cases h with
  | zero t =>
    rw [le_iff, order, hx, hy]
    exact ⟨not_isNaN_of_unpack hx rfl, not_isNaN_of_unpack hy rfl, rfl⟩
  | finite canonical le => exact le_of_weight_le hx hy le

/-! ## Products and quotients -/

variable {s : Sign} {v : Rat} {u : UnpackedFloat} {k n : Nat} {c e : Int}

/-- A product whose mantissa has all of its bits. -/
theorem upTo_mul {m : Nat} {d : Int} (pos : 0 < m) (pos' : 0 < k) (full : 2 ^ 52 ≤ m * k)
    (hn : IsCanonical n e) (le : weight m d * weight k c ≤ weight n e) :
    UpTo s (weight n e) (UnpackedFloat.mul Format.binary64 (.finite s m d pos)
      (.finite .positive k c pos')) := by
  have sign : s * .positive = s := by cases s <;> rfl
  show UpTo s _ (roundWithAccuracy _ (s * .positive) ..)
  rw [sign]
  refine upTo_roundWithAccuracy s (.inr full) (.exact le_rfl) hn ?_
  rw [← weight_mul_weight]
  exact le

/-- A product of which one factor has all the bits of its mantissa. -/
theorem UpTo.mul (h : UpTo s v u) (pos : 0 < k) (full : 2 ^ 52 ≤ k) (hn : IsCanonical n e)
    (le : v * weight k c ≤ weight n e) :
    UpTo s (weight n e) (UnpackedFloat.mul Format.binary64 u (.finite .positive k c pos)) := by
  cases h with
  | zero t => exact .zero _
  | finite canonical le' =>
    rename_i m d pos'
    refine upTo_mul pos' pos (full.trans (Nat.le_mul_of_pos_left k pos')) hn ?_
    exact (mul_le_mul_of_nonneg_right le' (weight_nonneg k c)).trans le

theorem tracks_div (m : Nat) (d : Int) (pos : 0 < k) :
    Tracks (ExtendedMantissa.ofMantissaAndAccuracy (m / k) (accuracyOfFraction (m % k) k)) d
      (weight m d / k) := by
  have positive : (0 : Rat) < k := Nat.cast_pos.2 pos
  have quotient : weight (m / k) d * k = weight (m / k * k) d := by
    unfold weight
    rw [Nat.cast_mul]
    ring
  unfold accuracyOfFraction
  split
  · refine .exact ?_
    rw [le_div_iff₀ positive, quotient, weight_le_weight]
    exact Nat.div_mul_le_self ..
  · next rest =>
    refine .inexact ?_ _
    rw [lt_div_iff₀ positive, quotient, weight_lt_weight]
    have := Nat.div_add_mod' m k
    omega

/-- The quotient is taken with all the bits of a mantissa. -/
theorem fits_divCore (m : Nat) (d : Int) (k : Nat) (c : Int) (pos : 0 < m) (pos' : 0 < k) :
    Fits (UnpackedFloat.divCore Format.binary64 m d k c).1
      (UnpackedFloat.divCore Format.binary64 m d k c).2.1 := by
  obtain ⟨t, ht⟩ : ∃ t, min (d - c) (Format.binary64.targetExponent
      (totalExponent m d - totalExponent k c)) = t := ⟨_, rfl⟩
  have target : Format.binary64.targetExponent (totalExponent m d - totalExponent k c) =
      max ((m.log2 : Int) + 1 + d - (k.log2 + 1 + c) - 53) (-1074) := rfl
  show Fits (m <<< (d - c - min (d - c) (Format.binary64.targetExponent _)).toNat / k)
    (min (d - c) (Format.binary64.targetExponent _))
  rw [ht]
  rw [target] at ht
  by_cases least : t ≤ -1074
  · exact .inl least
  · right
    rw [Nat.le_div_iff_mul_le pos', Nat.shiftLeft_eq]
    calc 2 ^ 52 * k ≤ 2 ^ 52 * 2 ^ (k.log2 + 1) := Nat.mul_le_mul_left _ Nat.lt_log2_self.le
      _ = 2 ^ (52 + (k.log2 + 1)) := (Nat.pow_add ..).symm
      _ ≤ 2 ^ (m.log2 + (d - c - t).toNat) := Nat.pow_le_pow_right (by decide) (by omega)
      _ = 2 ^ m.log2 * 2 ^ (d - c - t).toNat := Nat.pow_add ..
      _ ≤ m * 2 ^ (d - c - t).toNat := Nat.mul_le_mul_right _ (Nat.log2_self_le pos.ne')

theorem upTo_div {m : Nat} {d : Int} (pos : 0 < m) (pos' : 0 < k) (hn : IsCanonical n e)
    (le : weight m d / weight k c ≤ weight n e) :
    UpTo s (weight n e) (UnpackedFloat.div Format.binary64 (.finite s m d pos)
      (.finite .positive k c pos')) := by
  have sign : s / .positive = s := by cases s <;> rfl
  show UpTo s _ (roundWithAccuracy _ (s / .positive) ..)
  rw [sign]
  refine upTo_roundWithAccuracy s (fits_divCore m d k c pos pos') (tracks_div _ _ pos') hn ?_
  rw [weight_shiftLeft _ (min_le_left ..), weight_sub_div]
  exact le

theorem UpTo.div (h : UpTo s v u) (pos : 0 < k) (hn : IsCanonical n e)
    (le : v / weight k c ≤ weight n e) :
    UpTo s (weight n e) (UnpackedFloat.div Format.binary64 u (.finite .positive k c pos)) := by
  cases h with
  | zero t => exact .zero _
  | finite canonical le' =>
    rename_i m d pos'
    exact upTo_div pos' pos hn ((div_le_div_of_nonneg_right le' (weight_nonneg k c)).trans le)

/-! ## Whole numbers -/

/-- A whole number that a mantissa has room for, with all the bits of a mantissa. -/
theorem isCanonical_shiftLeft {n : Nat} (pos : 0 < n) (small : n < 2 ^ 53) :
    IsCanonical (n <<< (52 - n.log2)) (0 - (52 - n.log2 : Nat)) := by
  have log : n.log2 < 53 := (Nat.log2_lt pos.ne').2 small
  refine ⟨⟨?_, by omega, .inr ?_⟩, by omega⟩
  · rw [Nat.shiftLeft_eq]
    calc n * 2 ^ (52 - n.log2) < 2 ^ (n.log2 + 1) * 2 ^ (52 - n.log2) :=
          Nat.mul_lt_mul_of_pos_right Nat.lt_log2_self (by positivity)
      _ = 2 ^ (n.log2 + 1 + (52 - n.log2)) := (Nat.pow_add ..).symm
      _ = 2 ^ 53 := by rw [show n.log2 + 1 + (52 - n.log2) = 53 by omega]
  · rw [Nat.shiftLeft_eq]
    calc 2 ^ 52 = 2 ^ (n.log2 + (52 - n.log2)) := by rw [show n.log2 + (52 - n.log2) = 52 by omega]
      _ = 2 ^ n.log2 * 2 ^ (52 - n.log2) := Nat.pow_add ..
      _ ≤ n * 2 ^ (52 - n.log2) := Nat.mul_le_mul_right _ (Nat.log2_self_le pos.ne')

theorem upTo_ofNat {n : Nat} (pos : 0 < n) (small : n < 2 ^ 53) :
    UpTo .positive n (UnpackedFloat.ofNat Format.binary64 n) := by
  have canonical := isCanonical_shiftLeft pos small
  have value : weight (n <<< (52 - n.log2)) (0 - (52 - n.log2 : Nat)) = n := by
    rw [Nat.shiftLeft_eq, weight_mul_pow, Int.sub_add_cancel, weight_natCast]
  have log : n.log2 < 53 := (Nat.log2_lt pos.ne').2 small
  have target : Format.binary64.targetExponent (totalExponent n 0) =
      max ((n.log2 : Int) + 1 + 0 - 53) (-1074) := rfl
  have amount : (0 - Format.binary64.targetExponent (totalExponent n 0)).toNat = 52 - n.log2 := by
    rw [target]
    omega
  unfold UnpackedFloat.ofNat UnpackedFloat.ofInt UnpackedFloat.normalize
  rw [Int.compare_eq_gt.2 (Int.natCast_pos.2 pos)]
  show UpTo .positive n (roundWithAccuracy Format.binary64 .positive
    (n <<< (0 - Format.binary64.targetExponent (totalExponent n 0)).toNat)
    (0 - ((0 - Format.binary64.targetExponent (totalExponent n 0)).toNat : Nat)) .exact)
  rw [amount, ← value]
  exact upTo_roundWithAccuracy .positive (.inr (canonical.full.resolve_left (by omega)))
    (.exact le_rfl) canonical le_rfl

end Teller.Number
