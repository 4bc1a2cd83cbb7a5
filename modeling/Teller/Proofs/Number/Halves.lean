import Teller.Proofs.Number.Plain

/-!
# Half of a number, written plainly

Half of a number is rounded twice before it is read back: to a double, and to twelve places when it
is written. Still it is no more than the number: half of it is a double, unless it is so small that
all twelve places are zero.

    upTo_half                    half of a number, as a double
    upTo_of_read?_plain          what is read from a plain text
    le_of_read?_half             half of a positive number, written plainly
    not_pos_of_read?_half        half of any other number, written plainly
-/

namespace Teller.Number

open Float.Model
open Float.Model.UnpackedFloat (Sign)

variable {s : Sign} {v : Rat} {n : Nat} {e : Int}

/-! ## Doubles within a bound -/

/-- The fields of a double within a bound. -/
theorem exists_ofFloat_of_upTo {y : Float} (nonneg : 0 ≤ v) (h : UpTo s v y.toModel.unpack) :
    ∃ negative m d, Binary.ofFloat y = .finite negative m d ∧ weight m d ≤ v ∧
      (m = 0 ∨ negative = (s == .negative)) := by
  rw [ofFloat_eq_ofUnpacked]
  generalize y.toModel.unpack = u at h
  cases h with
  | zero t => exact ⟨_, 0, _, rfl, by rw [weight, Nat.cast_zero, zero_mul]; exact nonneg, .inl rfl⟩
  | finite canonical le => exact ⟨_, _, _, rfl, le, .inr rfl⟩

theorem UpTo.neg {y : Float} (h : UpTo s v y.toModel.unpack) : UpTo (-s) v (-y).toModel.unpack := by
  refine UpTo.unpack_pack ?_
  generalize y.toModel.unpack = u at h
  cases h with
  | zero t => exact .zero _
  | finite canonical le => exact .finite canonical le

theorem upTo_zero (minus : Bool) : UpTo s v (if minus then -(0 : Float) else 0).toModel.unpack := by
  cases minus
  · exact .zero .positive
  · exact .zero .negative

/-! ## Reading back -/

theorem units_zero (d : Int) : units 0 d = 0 := by
  have none : (units 0 d : Rat) ≤ 1 / 2 := by
    simpa [weight] using units_le 0 d
  exact Nat.cast_lt_one.1 (none.trans_lt (by norm_num))

theorem Decimal.digits_eq_zero {d : Decimal} (h : d.value = 0) : d.digits = 0 := by
  have scale : (10 : Rat) ^ d.exponent ≠ 0 := by positivity
  exact Nat.cast_eq_zero.1 ((mul_eq_zero.1 h).resolve_right scale)

theorem Decimal.toFloat_of_zero {d : Decimal} (h : d.digits = 0) : d.toFloat = 0 := by
  rw [Decimal.toFloat, h]
  rfl

/-- What is read from a plain text: the written number within another bound, if that allows for the
rounding to twelve places. -/
theorem upTo_of_read?_plain {y z : Float} (nonneg : 0 ≤ v) (hy : UpTo s v y.toModel.unpack)
    (hn : IsCanonical n e)
    (room : ∀ k : Nat, (k : Rat) ≤ v * 10 ^ 12 + 1 / 2 → (k : Rat) / 10 ^ 12 ≤ weight n e)
    (h : read? (plain y) = some z) : UpTo s (weight n e) z.toModel.unpack := by
  obtain ⟨negative, m, d, fields, within, sign⟩ := exists_ofFloat_of_upTo nonneg hy
  obtain ⟨decimal, minus, value, reads, sign'⟩ := read?_plain fields
  rw [reads] at h
  cases h
  have small : (units m d : Rat) ≤ v * 10 ^ 12 + 1 / 2 := by
    have := units_le m d
    linarith
  have size := Decimal.upTo_toFloat hn (value.trans_le (room _ small))
  by_cases zero : decimal.digits = 0
  · rw [Decimal.toFloat_of_zero zero]
    exact upTo_zero minus
  · have nonzero : m ≠ 0 := by
      rintro rfl
      rw [units_zero, Nat.cast_zero, zero_div] at value
      exact zero (Decimal.digits_eq_zero value)
    have minus_eq : minus = (s == .negative) :=
      (sign'.resolve_right zero).trans (sign.resolve_left nonzero)
    rw [minus_eq]
    cases s
    · exact size.neg
    · exact size

/-! ## Halves -/

theorem unpack_two : (2 : Float).toModel.unpack = .finite .positive (2 ^ 52) (-51) (by decide) := by
  apply eq_finite_of_ofUnpacked
  rw [← ofFloat_eq_ofUnpacked]
  decide +kernel

theorem weight_eq_double (m : Nat) (e : Int) : weight m e = 2 * weight m (e - 1) := by
  unfold weight
  rw [zpow_sub_one₀ (by norm_num)]
  ring

theorem weight_div_two (m : Nat) (e : Int) : weight m e / weight (2 ^ 52) (-51) = weight m (e - 1) := by
  have two : weight (2 ^ 52) (-51) = 2 := by
    norm_num [weight]
  rw [two, weight_eq_double, mul_div_cancel_left₀ _ (by norm_num)]

/-- Half of a number, as a double. -/
theorem upTo_half {x : Float} {m : Nat} {d : Int} {pos : 0 < m}
    (hx : x.toModel.unpack = .finite s m d pos) (hn : IsCanonical n e)
    (le : weight m (d - 1) ≤ weight n e) :
    UpTo s (weight n e) (x / 2).toModel.unpack := by
  refine UpTo.unpack_pack ?_
  rw [unpack_two, hx]
  refine upTo_div pos _ hn ?_
  rw [weight_div_two]
  exact le

/-- What is read from half of a finite number, written plainly. -/
theorem upTo_of_read?_half {x z : Float} {m : Nat} {pos : 0 < m}
    (hx : x.toModel.unpack = .finite s m e pos) (h : read? (plain (x / 2)) = some z) :
    UpTo s (weight m e) z.toModel.unpack := by
  have canonical := isCanonical_of_unpack hx
  have double := weight_eq_double m e
  have nonneg := weight_nonneg m (e - 1)
  by_cases least : e = -1074
  · -- the number itself is far below the twelfth place
    refine upTo_of_read?_plain (weight_nonneg m e) (upTo_half hx canonical (by linarith)) canonical ?_ h
    intro k hk
    have tiny : weight m e < 1 / 2 ^ 41 :=
      calc weight m e < weight (2 ^ 53) e := weight_lt_weight.2 canonical.small
        _ ≤ weight (2 ^ 53) (-94) := weight_le_weight_right (by omega)
        _ = 1 / 2 ^ 41 := by norm_num [weight]
    have none : (k : Rat) < 1 := by linarith
    rw [Nat.cast_lt_one.1 none, Nat.cast_zero, zero_div]
    exact weight_nonneg m e
  · -- half of the number is a double
    have half : IsCanonical m (e - 1) :=
      have := canonical.least
      ⟨⟨canonical.small, by omega, .inr (canonical.full.resolve_left least)⟩, by
        have := canonical.greatest
        omega⟩
    refine upTo_of_read?_plain nonneg (upTo_half hx half le_rfl) canonical ?_ h
    intro k hk
    rcases Nat.eq_zero_or_pos k with rfl | positive
    · rw [Nat.cast_zero, zero_div]
      exact weight_nonneg m e
    · have : (1 : Rat) ≤ k := Nat.one_le_cast.2 positive
      rw [div_le_iff₀ (by positivity)]
      linarith

/-! ## Positive numbers -/

theorem pos_iff (x : Float) :
    0 < x ↔ (∃ m e pos, x.toModel.unpack = .finite .positive m e pos) ∨
      x.toModel.unpack = .infinity .positive := by
  rw [lt_iff_compare]
  show (UnpackedFloat.zero .positive).compare _ = _ ↔ _
  cases x.toModel.unpack with
  | notANumber => exact iff_of_false nofun nofun
  | zero t => exact iff_of_false nofun nofun
  | infinity t =>
    cases t with
    | negative => exact iff_of_false nofun nofun
    | positive => exact iff_of_true rfl (.inr rfl)
  | finite t m e pos =>
    cases t with
    | negative => exact iff_of_false nofun nofun
    | positive => exact iff_of_true rfl (.inl ⟨m, e, pos, rfl⟩)

theorem UpTo.not_pos {z : Float} (h : UpTo .negative v z.toModel.unpack) : ¬0 < z := by
  rw [pos_iff]
  rintro (⟨m, e, pos, finite⟩ | infinite)
  · rw [finite] at h
    cases h
  · rw [infinite] at h
    cases h

theorem plain_half_of_infinity {x : Float} (hx : x.toModel.unpack = .infinity s) :
    plain (x / 2) = if s == .negative then "-inf" else "inf" := by
  apply plain_of_infinite
  rw [ofFloat_eq_ofUnpacked]
  show Binary.ofUnpacked (Float.Model.pack (UnpackedFloat.div _ x.toModel.unpack _)).unpack = _
  rw [hx, unpack_two]
  cases s <;> rfl

/-- Half of a positive number, written plainly, is read as no more than the number. -/
theorem le_of_read?_half {x z : Float} (hx : 0 < x) (h : read? (plain (x / 2)) = some z) : z ≤ x := by
  rcases (pos_iff x).1 hx with ⟨m, e, pos, finite⟩ | infinite
  · exact (upTo_of_read?_half finite h).le finite
  · have infinity : read? "inf" = some (1 / 0) := rfl
    rw [plain_half_of_infinity infinite] at h
    cases infinity.symm.trans h
    refine (le_iff _ _).2 ⟨rfl, (not_isNaN_of_lt hx).2, ?_⟩
    rw [order, infinite]
    rfl

/-- Half of any other number, written plainly, is not read as a positive number. -/
theorem not_pos_of_read?_half {x z : Float} (hx : ¬0 < x) (h : read? (plain (x / 2)) = some z) :
    ¬0 < z := by
  rw [pos_iff] at hx
  cases unpacked : x.toModel.unpack with
  | notANumber =>
    have text : plain (x / 2) = "nan" := by
      apply plain_of_nan
      rw [ofFloat_eq_ofUnpacked]
      show Binary.ofUnpacked (Float.Model.pack (UnpackedFloat.div _ x.toModel.unpack _)).unpack = _
      rw [unpacked]
      rfl
    rw [text] at h
    cases read?_nan.symm.trans h
    decide +kernel
  | infinity s =>
    cases s with
    | positive => exact absurd (.inr unpacked) hx
    | negative =>
      have infinity : read? "-inf" = some (-(1 / 0)) := rfl
      rw [plain_half_of_infinity unpacked] at h
      cases infinity.symm.trans h
      decide +kernel
  | zero s =>
    have none : IsCanonical 0 (-1074) := ⟨⟨by decide, le_rfl, .inl rfl⟩, by decide⟩
    have half : UpTo .negative 0 (x / 2).toModel.unpack := by
      refine UpTo.unpack_pack ?_
      rw [unpack_two, unpacked]
      exact .zero _
    refine (upTo_of_read?_plain le_rfl half none ?_ h).not_pos
    intro k hk
    have none : (k : Rat) < 1 := by linarith
    rw [Nat.cast_lt_one.1 none, Nat.cast_zero, zero_div]
    exact weight_nonneg 0 _
  | finite s m e pos =>
    cases s with
    | positive => exact absurd (.inl ⟨m, e, pos, unpacked⟩) hx
    | negative => exact (upTo_of_read?_half unpacked h).not_pos

end Teller.Number
