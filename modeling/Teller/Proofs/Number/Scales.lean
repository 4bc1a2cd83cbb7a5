import Mathlib.Algebra.BigOperators.Group.List.Basic
import Teller.Number.Scale
import Teller.Proofs.Number.Doubles

/-!
# Scores in rational numbers

On the scale of rational numbers sums, bounds and decimal constants are the usual ones, and each
finite double counts with its exact value.

    Scale.decimal_eq                the decimal constants
    Scale.sum_eq                    sums
    Scale.greater_eq_max, Scale.atMost_eq_min
    exactValue_eq                   the number that a double stands for
    zero_or_denotes                 finite doubles that are not negative are zeros or have one
    exactValue_le_iff               finite doubles in the order of their exact values
-/

namespace Teller.Number

namespace Scale

theorem decimal_eq (digits places : Nat) : (decimal digits places : Rat) = digits / 10 ^ places := by
  show mkRat digits (10 ^ places) = _
  rw [Rat.mkRat_eq_div]
  push_cast
  rfl

theorem zero_eq : (zero : Rat) = 0 := rfl

theorem one_eq : (one : Rat) = 1 := by
  rw [one, decimal_eq, Nat.cast_one, pow_zero, div_one]

theorem sum_eq (xs : List Rat) : sum xs = xs.sum := by
  rw [List.sum_eq_foldl]
  rfl

theorem sum_concat {α : Type} [Scale α] (xs : List α) (x : α) : sum (xs ++ [x]) = sum xs + x :=
  List.foldl_concat ..

theorem greater_eq_max (x y : Rat) : greater x y = max x y := by
  unfold greater
  split
  · next less => exact (max_eq_right less.le).symm
  · next not_less => exact (max_eq_left (not_lt.1 not_less)).symm

theorem atMost_eq_min (cap x : Rat) : atMost cap x = min cap x := by
  unfold atMost
  split
  · next less => exact (min_eq_left less.le).symm
  · next not_less => exact (min_eq_right (not_lt.1 not_less)).symm

end Scale

/-! ## Exact values -/

variable {x : Float} {v : Rat}

theorem exactValue_of_fields {m : Nat} {e : Int} (h : Binary.ofFloat x = .finite false m e) :
    exactValue x = weight m e := by
  unfold exactValue
  rw [h, ← value_size, Fraction.value]
  exact Rat.mkRat_eq_div ..

/-- A double that stands for a number has this number as its exact value. -/
theorem exactValue_eq (h : Denotes x v) : exactValue x = v := by
  obtain ⟨m, e, fields, rfl⟩ := h.exists_fields
  exact exactValue_of_fields fields

theorem exactValue_of_zero {s : Float.Model.UnpackedFloat.Sign} (h : x.toModel.unpack = .zero s) :
    exactValue x = 0 := by
  have fields : Binary.ofFloat x = .finite (s == .negative) 0 (-1074) := by
    rw [ofFloat_eq_ofUnpacked, h]
    rfl
  unfold exactValue
  rw [fields]
  cases s <;> decide +kernel

theorem exists_unpack_eq_zero (h : (x == 0) = true) : ∃ s, x.toModel.unpack = .zero s := by
  rcases eq_or_zero_of_compare ((beq_iff_compare x 0).1 h) with equal | ⟨s, -, zero, -⟩
  · exact ⟨.positive, equal⟩
  · exact ⟨s, zero⟩

/-- A finite double that is not negative is a zero of some sign, or stands for its exact value. -/
theorem zero_or_denotes (nonneg : 0 ≤ x) (finite : x.isFinite = true) :
    (∃ s, x.toModel.unpack = .zero s) ∧ exactValue x = 0 ∨ 0 < exactValue x ∧
    Denotes x (exactValue x) := by
  cases zero : x == 0 with
  | true =>
    obtain ⟨s, unpacked⟩ := exists_unpack_eq_zero zero
    exact .inl ⟨⟨s, unpacked⟩, exactValue_of_zero unpacked⟩
  | false =>
    obtain ⟨v, positive, denotes⟩ := exists_denotes (pos_of_nonneg nonneg zero) finite
    rw [exactValue_eq denotes]
    exact .inr ⟨positive, denotes⟩

/-! ## Exact values in order -/

open Float.Model
open Float.Model.UnpackedFloat (Sign)

/-- The number that an unpacked double stands for, with its sign. -/
def unpackedValue : UnpackedFloat → Rat
  | .finite .negative m e _ => -weight m e
  | .finite .positive m e _ => weight m e
  | .notANumber | .infinity _ | .zero _ => 0

theorem exactValue_eq_unpackedValue (x : Float) : exactValue x = unpackedValue x.toModel.unpack := by
  cases h : x.toModel.unpack with
  | zero s => exact exactValue_of_zero h
  | notANumber | infinity s =>
    unfold exactValue
    rw [ofFloat_eq_ofUnpacked, h]
    rfl
  | finite s m e pos =>
    have fields : Binary.ofFloat x = .finite (s == .negative) m e := by
      rw [ofFloat_eq_ofUnpacked, h]
      rfl
    cases s with
    | positive => exact exactValue_of_fields fields
    | negative =>
      unfold exactValue
      rw [fields]
      show mkRat (-((Binary.size m e).num : Int)) (Binary.size m e).den = -weight m e
      rw [Rat.mkRat_eq_div, Int.cast_neg, neg_div, ← value_size]
      rfl

/-- Infinities and what is no number have no exact value. -/
theorem exactValue_of_not_isFinite (h : x.isFinite = false) : exactValue x = 0 := by
  replace h : x.toModel.unpack.isFinite = false := h
  rw [exactValue_eq_unpackedValue]
  cases unpacked : x.toModel.unpack with
  | notANumber | infinity s | zero s => rfl
  | finite s m e pos =>
    rw [unpacked] at h
    cases h

/-- Places of finite numbers are in the order of the numbers. -/
theorem isLE_compare_place_iff {u v : UnpackedFloat} (hu : u.isFinite = true) (hv : v.isFinite = true)
    (canonical : ∀ {s m e pos}, u = .finite s m e pos → IsNormalized m e)
    (canonical' : ∀ {s m e pos}, v = .finite s m e pos → IsNormalized m e) :
    ((place u).compare (place v)).isLE = true ↔ unpackedValue u ≤ unpackedValue v := by
  cases u with
  | notANumber | infinity s => cases hu
  | zero s =>
    cases v with
    | notANumber | infinity t => cases hv
    | zero t => exact iff_of_true rfl le_rfl
    | finite t n d pos' =>
      cases t with
      | negative => exact iff_of_false Bool.false_ne_true (neg_lt_zero.2 (weight_pos d pos')).not_ge
      | positive => exact iff_of_true rfl (weight_nonneg n d)
  | finite s m e pos =>
    cases v with
    | notANumber | infinity t => cases hv
    | zero t =>
      cases s with
      | negative => exact iff_of_true rfl (neg_nonpos.2 (weight_nonneg m e))
      | positive => exact iff_of_false Bool.false_ne_true (weight_pos e pos).not_ge
    | finite t n d pos' =>
      have hm := canonical rfl
      have hn := canonical' rfl
      -- only two numbers on the same side of zero are compared by their size
      cases s with
      | negative =>
        cases t with
        | negative =>
          show (Place.compare ⟨-1, -e, -m⟩ ⟨-1, -d, -n⟩).isLE = true ↔ -weight m e ≤ -weight n d
          rw [compare_below_zero, Ordering.swap_then, Int.compare_swap, Nat.compare_swap, neg_le_neg_iff,
            hn.weight_le_weight_iff hm]
        | positive =>
          exact iff_of_true rfl ((neg_nonpos.2 (weight_nonneg m e)).trans (weight_nonneg n d))
      | positive =>
        cases t with
        | negative =>
          refine iff_of_false Bool.false_ne_true (not_le.2 ?_)
          exact (neg_lt_zero.2 (weight_pos d pos')).trans (weight_pos e pos)
        | positive =>
          show (Place.compare ⟨1, e, m⟩ ⟨1, d, n⟩).isLE = true ↔ weight m e ≤ weight n d
          rw [compare_above_zero, hm.weight_le_weight_iff hn]

/-- Finite doubles are in the order of their exact values. -/
theorem exactValue_le_iff {y : Float} (hx : x.isFinite = true) (hy : y.isFinite = true) :
    exactValue x ≤ exactValue y ↔ x ≤ y := by
  rw [exactValue_eq_unpackedValue, exactValue_eq_unpackedValue,
    ← isLE_compare_place_iff hx hy (fun h => (isCanonical_of_unpack h).toIsNormalized)
      (fun h => (isCanonical_of_unpack h).toIsNormalized), le_iff]
  simp only [not_isNaN_of_isFinite hx, not_isNaN_of_isFinite hy, true_and]
  rfl

theorem exactValue_lt_iff {y : Float} (hx : x.isFinite = true) (hy : y.isFinite = true) :
    exactValue x < exactValue y ↔ x < y := by
  rw [← not_le, exactValue_le_iff hy hx]
  constructor
  · exact fun not_le => not_not.1 fun not_less =>
      not_le (le_of_not_lt (not_isNaN_of_isFinite hy) (not_isNaN_of_isFinite hx) not_less)
  · exact fun less le => not_lt_of_le le less

theorem exactValue_zero : exactValue 0 = 0 := exactValue_eq denotes_zero

theorem exactValue_nonneg (nonneg : 0 ≤ x) : 0 ≤ exactValue x := by
  by_cases finite : x.isFinite = true
  · rw [← exactValue_zero, exactValue_le_iff denotes_zero.isFinite finite]
    exact nonneg
  · exact (exactValue_of_not_isFinite (eq_false_of_ne_true finite)).ge

end Teller.Number
