import Teller.Proofs.Number.Bounds

/-!
# Sums and products that are numbers

Rounding never makes a number into NaN. So a sum is a number if one of the two numbers is finite,
however large the other one is, and a product if one of them is finite and not zero.

    isNaN_unpack_pack           a number is still one after rounding
    isNaN_add                   sums with finite numbers
    isNaN_mul                   products with finite numbers that are not zero
    isNaN_foldl_add             sums of finite numbers
-/

namespace Teller.Number

open Float.Model.UnpackedFloat (Sign unpackExponent unpackMantissa packComponents
  unpackExponent_packComponents unpackMantissa_packComponents)
open Float.Model

/-! ## Packed numbers -/

theorem isNaN_unpack {b : BitVec Format.binary64.numBits}
    (h : unpackExponent b = -BitVec.ofNat _ 1 → unpackMantissa b = BitVec.ofNat _ 0) :
    (UnpackedFloat.unpack Format.binary64 b).isNaN = false := by
  unfold UnpackedFloat.unpack
  dsimp only
  by_cases all_ones : unpackExponent b = -BitVec.ofNat _ 1
  · rw [if_pos all_ones, if_pos (h all_ones)]
    rfl
  · rw [if_neg all_ones]
    by_cases subnormal : unpackExponent b = BitVec.ofNat _ 0
    · rw [if_pos subnormal]
      by_cases zero : unpackMantissa b = BitVec.ofNat _ 0
      · rw [dif_pos zero]
        rfl
      · rw [dif_neg zero]
        rfl
    · rw [if_neg subnormal]
      rfl

theorem isNaN_unpack_packComponents {s : Sign} {exponent : BitVec Format.binary64.exponentBits}
    {mantissa : BitVec Format.binary64.mantissaBitsWithoutImplicit}
    (h : exponent = -BitVec.ofNat _ 1 → mantissa = 0) :
    (UnpackedFloat.unpack Format.binary64
      (packComponents Format.binary64 s exponent mantissa)).isNaN = false := by
  apply isNaN_unpack
  rw [unpackExponent_packComponents, unpackMantissa_packComponents]
  exact h

/-- A number is still one after rounding. -/
theorem isNaN_unpack_pack {u : UnpackedFloat} (h : u.isNaN = false) :
    (Float.Model.pack u).unpack.isNaN = false := by
  show (UnpackedFloat.unpack Format.binary64 (UnpackedFloat.pack Format.binary64 u)).isNaN = false
  cases u with
  | notANumber => cases h
  | infinity s => exact isNaN_unpack_packComponents fun _ => rfl
  | zero s => exact isNaN_unpack_packComponents fun _ => rfl
  | finite s m e pos =>
    unfold UnpackedFloat.pack
    dsimp only
    split
    · exact isNaN_unpack_packComponents fun _ => rfl
    · next small =>
      split
      · refine isNaN_unpack_packComponents fun all_ones => ?_
        -- an exponent of all ones would have been too large
        have largest : (-BitVec.ofNat Format.binary64.exponentBits 1).toNat = 2047 := rfl
        have same := congrArg BitVec.toNat all_ones
        rw [BitVec.toNat_ofNat, largest] at same
        omega
      · exact isNaN_unpack_packComponents fun all_ones => absurd all_ones (by decide)

theorem isNaN_roundWithAccuracy (spec : Format) (s : Sign) (m : Nat) (e : Int)
    (a : UnpackedFloat.Accuracy) :
    (UnpackedFloat.roundWithAccuracy spec s m e a).isNaN = false := by
  unfold UnpackedFloat.roundWithAccuracy
  dsimp only
  by_cases zero : (UnpackedFloat.shiftToTargetExponent spec
      (UnpackedFloat.shiftToTargetExponent spec m e a).1.roundedMantissa
      (UnpackedFloat.shiftToTargetExponent spec m e a).2 .exact).1.mantissa = 0
  · rw [dif_pos zero]
    rfl
  · rw [dif_neg zero]
    rfl

theorem isNaN_normalize (spec : Format) (m : Int) (e : Int) (s : Sign) :
    (UnpackedFloat.normalize spec m e s).isNaN = false := by
  unfold UnpackedFloat.normalize
  split
  · exact isNaN_roundWithAccuracy ..
  · rfl
  · exact isNaN_roundWithAccuracy ..

/-! ## Sums -/

theorem isNaN_unpackedAdd (spec : Format) {u v : UnpackedFloat} (hu : u.isNaN = false)
    (hv : v.isFinite = true) : (UnpackedFloat.add spec u v).isNaN = false := by
  cases v with
  | notANumber | infinity t => cases hv
  | zero t =>
    cases u with
    | notANumber => cases hu
    | infinity s => rfl
    | zero s => cases s <;> cases t <;> rfl
    | finite s m e _ => rfl
  | finite t n d _ =>
    cases u with
    | notANumber => cases hu
    | infinity s => rfl
    | zero s => rfl
    | finite s m e _ => exact isNaN_normalize ..

theorem isNaN_add {x y : Float} (hx : x.isNaN = false) (hy : y.isFinite = true) :
    (x + y).isNaN = false :=
  isNaN_unpack_pack (isNaN_unpackedAdd Format.binary64 hx hy)

theorem isNaN_foldl_add {α : Type} (value : α → Float) {xs : List α}
    (finite : ∀ a ∈ xs, (value a).isFinite = true) {start : Float} (h : start.isNaN = false) :
    (xs.foldl (fun sum a => sum + value a) start).isNaN = false := by
  induction xs generalizing start with
  | nil => exact h
  | cons a xs ih =>
    apply ih
    · intro b hb
      exact finite b (List.mem_cons_of_mem _ hb)
    · exact isNaN_add h (finite a List.mem_cons_self)

/-! ## Products -/

theorem isNaN_unpackedMul (spec : Format) {u : UnpackedFloat} (hu : u.isNaN = false) (t : Sign)
    (n : Nat) (d : Int) (pos : 0 < n) :
    (UnpackedFloat.mul spec u (.finite t n d pos)).isNaN = false := by
  cases u with
  | notANumber => cases hu
  | infinity s => rfl
  | zero s => rfl
  | finite s m e _ => exact isNaN_roundWithAccuracy ..

theorem exists_unpack_eq_finite {y : Float} (hy : y.isFinite = true) (nonzero : (y == 0) = false) :
    ∃ t n d pos, y.toModel.unpack = .finite t n d pos := by
  replace hy : y.toModel.unpack.isFinite = true := hy
  cases hu : y.toModel.unpack with
  | notANumber | infinity t =>
    rw [hu] at hy
    cases hy
  | zero t =>
    have equal : (y == 0) = true := by
      rw [beq_iff_compare, hu]
      rfl
    rw [nonzero] at equal
    cases equal
  | finite t n d pos => exact ⟨t, n, d, pos, rfl⟩

theorem isNaN_mul {x y : Float} (hx : x.isNaN = false) (hy : y.isFinite = true)
    (nonzero : (y == 0) = false) : (x * y).isNaN = false := by
  obtain ⟨t, n, d, pos, hu⟩ := exists_unpack_eq_finite hy nonzero
  refine isNaN_unpack_pack ?_
  show (UnpackedFloat.mul Format.binary64 x.toModel.unpack y.toModel.unpack).isNaN = false
  rw [hu]
  exact isNaN_unpackedMul Format.binary64 hx t n d pos

end Teller.Number
