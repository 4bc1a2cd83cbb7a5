import Teller.Proofs.Number.Scales

/-!
# Calculations keep the order

A sum, a difference, a product or a quotient of doubles of any sign is the exact one, rounded once.
Rounding keeps the order, so what grows with one of its operands still grows with it in doubles, and
infinities stay where they are.

    IsRoundingOf                    the double that a number of any sign is rounded to
    IsRoundingOf.le                 a greater number has no smaller double
    isRoundingOf_add, isRoundingOf_sub, isRoundingOf_mul, isRoundingOf_div
    abs_exactValue_sub_le        a difference is hardly rounded, however small it is
    Grows.le                     functions that grow with a double
    grows_add_left, grows_add_right, grows_sub, grows_mul, grows_div
    sub_le_sub_of_le             less is left if more is taken off
    nonneg_add, nonneg_mul       what is not below zero stays so
    le_mul_of_one_le             and no less after a factor of one or more
    add_grows                    sums of such numbers, infinite ones included
    decimal_of_pos               counts as doubles
-/

namespace Teller.Number

open Float.Model
open Float.Model.UnpackedFloat (Sign roundWithAccuracy)

variable {u v w r : Rat} {x y z : Float} {s t : Sign} {a b : UnpackedFloat}

/-! ## Numbers of any sign -/

/-- The number of this size with a sign. -/
def withSign : Sign → Rat → Rat
  | .negative, v => -v
  | .positive, v => v

theorem withSign_zero (s : Sign) : withSign s 0 = 0 := by
  cases s with
  | negative => exact neg_zero
  | positive => rfl

theorem withSign_withSign (s : Sign) (v : Rat) : withSign s (withSign s v) = v := by
  cases s with
  | negative => exact neg_neg v
  | positive => rfl

theorem withSign_neg (s : Sign) (v : Rat) : withSign (-s) v = -withSign s v := by
  cases s with
  | negative => exact (neg_neg v).symm
  | positive => rfl

theorem abs_withSign (s : Sign) (nonneg : 0 ≤ v) : |withSign s v| = v := by
  cases s with
  | negative => exact (abs_neg v).trans (abs_of_nonneg nonneg)
  | positive => exact abs_of_nonneg nonneg

theorem Sized.unpackedValue_eq (h : Sized s w a) : unpackedValue a = withSign s w := by
  cases h with
  | zero => cases s <;> rfl
  | finite => cases s <;> rfl

/-- The size of a double is no greater than that of some double. -/
theorem Sized.moderate (h : Sized s w x.toModel.unpack) : Moderate w := by
  cases unpacked : x.toModel.unpack with
  | notANumber | infinity t =>
    rw [unpacked] at h
    cases h
  | zero t =>
    rw [unpacked] at h
    cases h
    exact moderate_two_pow.of_le (by positivity)
  | finite t m e pos =>
    rw [unpacked] at h
    cases h
    exact ⟨m, e, isCanonical_of_unpack unpacked, le_rfl⟩

theorem Sized.neg (h : Sized s w a) : Sized (-s) w a.neg := by
  cases h with
  | zero => exact .zero
  | finite normalized => exact .finite normalized

/-- A finite double has a sign and a size. -/
theorem exists_sized (finite : x.isFinite = true) :
    ∃ s w, Sized s w x.toModel.unpack ∧ exactValue x = withSign s w := by
  have sized : ∃ s w, Sized s w x.toModel.unpack := by
    replace finite : x.toModel.unpack.isFinite = true := finite
    cases unpacked : x.toModel.unpack with
    | notANumber | infinity s =>
      rw [unpacked] at finite
      cases finite
    | zero s => exact ⟨s, 0, .zero⟩
    | finite s m e pos => exact ⟨s, _, .finite (isCanonical_of_unpack unpacked).toIsNormalized⟩
  obtain ⟨s, w, sized⟩ := sized
  exact ⟨s, w, sized, (exactValue_eq_unpackedValue x).trans sized.unpackedValue_eq⟩

/-- A double that is a number but not finite is an infinity. -/
theorem exists_unpack_eq_infinity (number : x.isNaN = false) (infinite : x.isFinite = false) :
    ∃ s, x.toModel.unpack = .infinity s := by
  replace number : x.toModel.unpack.isNaN = false := number
  replace infinite : x.toModel.unpack.isFinite = false := infinite
  generalize x.toModel.unpack = a at *
  cases a with
  | notANumber => cases number
  | zero | finite => cases infinite
  | infinity s => exact ⟨s, rfl⟩

/-! ## Numbers that are rounded -/

/-- The unpacked number is this number, rounded. -/
def RoundsTo (v : Rat) (a : UnpackedFloat) : Prop :=
  ∃ s w, Sized s w a ∧ Rounds |v| w ∧ 0 ≤ withSign s v

theorem Rounds.roundsTo (h : Rounds v w) (sized : Sized s w a) (nonneg : 0 ≤ v) :
    RoundsTo (withSign s v) a := by
  refine ⟨s, w, sized, ?_, ?_⟩
  · rwa [abs_withSign s nonneg]
  · rwa [withSign_withSign]

theorem Sized.roundsTo (h : Sized s w a) : RoundsTo (withSign s w) a := h.rounds_self.roundsTo h h.nonneg

theorem roundsTo_zero (s : Sign) : RoundsTo 0 (.zero s) := by
  have := (Sized.zero (s := s)).roundsTo
  rwa [withSign_zero] at this

theorem RoundsTo.isFinite (h : RoundsTo v a) : a.isFinite = true := by
  obtain ⟨s, w, sized, -⟩ := h
  exact sized.isFinite

/-- Rounding keeps the order, also across zero. -/
theorem RoundsTo.le (h : RoundsTo v a) (h' : RoundsTo u b) (le : v ≤ u) :
    unpackedValue a ≤ unpackedValue b := by
  obtain ⟨s, w, sized, rounds, side⟩ := h
  obtain ⟨t, w', sized', rounds', side'⟩ := h'
  rw [sized.unpackedValue_eq, sized'.unpackedValue_eq]
  cases s with
  | negative =>
    replace side : 0 ≤ -v := side
    cases t with
    | negative =>
      replace side' : 0 ≤ -u := side'
      rw [abs_of_nonpos (neg_nonneg.1 side)] at rounds
      rw [abs_of_nonpos (neg_nonneg.1 side')] at rounds'
      exact neg_le_neg (rounds'.mono rounds (neg_le_neg le))
    | positive => exact (neg_nonpos.2 sized.nonneg).trans sized'.nonneg
  | positive =>
    replace side : 0 ≤ v := side
    cases t with
    | negative =>
      replace side' : 0 ≤ -u := side'
      have zero : v = 0 := le_antisymm (le.trans (neg_nonneg.1 side')) side
      have zero' : u = 0 := le_antisymm (neg_nonneg.1 side') (side.trans le)
      rw [zero, abs_zero] at rounds
      rw [zero', abs_zero] at rounds'
      rw [rounds.unique rounds_zero, rounds'.unique rounds_zero]
      exact neg_zero.ge
    | positive =>
      replace side' : 0 ≤ u := side'
      rw [abs_of_nonneg side] at rounds
      rw [abs_of_nonneg side'] at rounds'
      exact rounds.mono rounds' le

/-- The double that a number is rounded to, which is an infinity if the number is beyond all
doubles. -/
inductive IsRoundingOf (x : Float) (v : Rat) : Prop
  | finite (rounds : RoundsTo v x.toModel.unpack)
  | infinite {s : Sign} {w : Rat} (unpack : x.toModel.unpack = .infinity s) (rounds : Rounds |v| w)
      (large : ¬Moderate w) (side : 0 ≤ withSign s v)

/-- All numbers are below infinity. -/
theorem le_infinity (number : x.isNaN = false) (h : y.toModel.unpack = .infinity .positive) : x ≤ y := by
  refine (le_iff x y).2 ⟨number, not_isNaN_of_unpack h rfl, ?_⟩
  replace number : x.toModel.unpack.isNaN = false := number
  unfold order
  rw [h]
  generalize x.toModel.unpack = a at *
  cases a with
  | notANumber => cases number
  | zero => rfl
  | infinity s | finite s => cases s <;> rfl

theorem infinity_le (number : y.isNaN = false) (h : x.toModel.unpack = .infinity .negative) : x ≤ y := by
  refine (le_iff x y).2 ⟨not_isNaN_of_unpack h rfl, number, ?_⟩
  replace number : y.toModel.unpack.isNaN = false := number
  unfold order
  rw [h]
  generalize y.toModel.unpack = a at *
  cases a with
  | notANumber => cases number
  | zero => rfl
  | infinity s | finite s => cases s <;> rfl

/-- Nothing but infinity is above infinity. -/
theorem unpack_of_infinity_le (le : x ≤ y) (h : x.toModel.unpack = .infinity .positive) :
    y.toModel.unpack = .infinity .positive := by
  obtain ⟨-, number, above⟩ := (le_iff x y).1 le
  replace number : y.toModel.unpack.isNaN = false := number
  unfold order at above
  rw [h] at above
  generalize y.toModel.unpack = a at *
  cases a with
  | notANumber => cases number
  | zero => cases above
  | finite s => cases s <;> cases above
  | infinity s =>
    cases s with
    | negative => cases above
    | positive => rfl

theorem unpack_of_le_infinity (le : x ≤ y) (h : y.toModel.unpack = .infinity .negative) :
    x.toModel.unpack = .infinity .negative := by
  obtain ⟨number, -, above⟩ := (le_iff x y).1 le
  replace number : x.toModel.unpack.isNaN = false := number
  unfold order at above
  rw [h] at above
  generalize x.toModel.unpack = a at *
  cases a with
  | notANumber => cases number
  | zero => cases above
  | finite s => cases s <;> cases above
  | infinity s =>
    cases s with
    | negative => rfl
    | positive => cases above

namespace IsRoundingOf

theorem of_roundsTo (packed : x.toModel.unpack = (Float.Model.pack a).unpack) (h : RoundsTo v a) :
    IsRoundingOf x v := by
  obtain ⟨s, w, sized, rounds, side⟩ := h
  rcases sized.unpack_pack_or with ⟨-, finite⟩ | ⟨large, infinite⟩
  · rw [← packed] at finite
    exact .finite ⟨s, w, finite, rounds, side⟩
  · exact .infinite (packed.trans infinite) rounds large side

theorem not_isNaN (h : IsRoundingOf x v) : x.isNaN = false := by
  cases h with
  | finite h =>
    obtain ⟨_, _, sized, -⟩ := h
    exact sized.not_isNaN
  | infinite unpack => exact not_isNaN_of_unpack unpack rfl

/-- A double is its own exact value, rounded. -/
theorem of_isFinite (finite : x.isFinite = true) : IsRoundingOf x (exactValue x) := by
  obtain ⟨s, w, sized, value⟩ := exists_sized finite
  rw [value]
  exact .finite sized.roundsTo

/-- A greater number has no smaller double. -/
theorem le (h : IsRoundingOf x v) (h' : IsRoundingOf y u) (le : v ≤ u) : x ≤ y := by
  have number := h.not_isNaN
  have number' := h'.not_isNaN
  cases h with
  | finite h =>
    cases h' with
    | finite h' =>
      rw [← exactValue_le_iff h.isFinite h'.isFinite, exactValue_eq_unpackedValue,
        exactValue_eq_unpackedValue]
      exact h.le h' le
    | @infinite t w' unpack' rounds' large' side' =>
      cases t with
      | positive => exact le_infinity number unpack'
      | negative =>
        -- a number below one that is too large for doubles is too large as well
        obtain ⟨s, w, sized, rounds, -⟩ := h
        have below : |u| ≤ |v| := by
          rw [abs_of_nonpos (neg_nonneg.1 side'), abs_of_nonpos (le.trans (neg_nonneg.1 side'))]
          exact neg_le_neg le
        exact absurd (sized.moderate.of_le (rounds'.mono rounds below)) large'
  | @infinite s w unpack rounds large side =>
    cases s with
    | negative => exact infinity_le number' unpack
    | positive =>
      have above : |v| ≤ |u| := by
        rw [abs_of_nonneg (show 0 ≤ v from side), abs_of_nonneg ((show 0 ≤ v from side).trans le)]
        exact le
      cases h' with
      | finite h' =>
        obtain ⟨t, w', sized', rounds', -⟩ := h'
        exact absurd (sized'.moderate.of_le (rounds.mono rounds' above)) large
      | @infinite t w' unpack' rounds' large' side' =>
        cases t with
        | positive => exact le_infinity number unpack'
        | negative =>
          have zero : v = 0 := le_antisymm (le.trans (neg_nonneg.1 side')) side
          rw [zero, abs_zero] at rounds
          rw [rounds.unique rounds_zero] at large
          exact absurd (moderate_two_pow.of_le (by positivity)) large

end IsRoundingOf

theorem isRoundingOf_zero : IsRoundingOf 0 0 :=
  exactValue_zero ▸ IsRoundingOf.of_isFinite denotes_zero.isFinite

/-! ## Sums and differences -/

/-- A whole number of units is rounded. -/
theorem roundsTo_normalize (k e : Int) :
    RoundsTo (k * 2 ^ e) (UnpackedFloat.normalize Format.binary64 k e .positive) := by
  have unit : (0 : Rat) < 2 ^ e := by positivity
  have size : |(k : Rat) * 2 ^ e| = weight k.natAbs e := by
    rw [abs_mul, abs_of_pos unit, weight, Nat.cast_natAbs, Int.cast_abs]
  unfold UnpackedFloat.normalize
  rcases lt_trichotomy k 0 with negative | rfl | positive
  · obtain ⟨w, rounds, sized⟩ := exists_rounds_round .negative e (Int.natAbs_pos.2 negative.ne)
    rw [Int.compare_eq_lt.2 negative, show (-k).toNat = k.natAbs by omega]
    exact ⟨.negative, w, sized, size ▸ rounds,
      neg_nonneg.2 (mul_nonpos_of_nonpos_of_nonneg (Int.cast_nonpos.2 negative.le) unit.le)⟩
  · rw [Int.cast_zero, zero_mul]
    exact roundsTo_zero .positive
  · obtain ⟨w, rounds, sized⟩ := exists_rounds_round .positive e (Int.natAbs_pos.2 positive.ne')
    rw [Int.compare_eq_gt.2 positive, show k.toNat = k.natAbs by omega]
    exact ⟨.positive, w, sized, size ▸ rounds, mul_nonneg (Int.cast_nonneg positive.le) unit.le⟩

theorem apply_mul_unit (s : Sign) (n : Nat) (e : Int) :
    ((s.apply n : Int) : Rat) * 2 ^ e = withSign s (weight n e) := by
  cases s with
  | negative =>
    show ((-(n : Int) : Int) : Rat) * 2 ^ e = -weight n e
    rw [Int.cast_neg, Int.cast_natCast, neg_mul, weight]
  | positive =>
    show (((n : Int) : Int) : Rat) * 2 ^ e = weight n e
    rw [Int.cast_natCast, weight]

/-- A sum of unpacked numbers is the exact one, rounded. -/
theorem roundsTo_add (h : Sized s v a) (h' : Sized t w b) :
    RoundsTo (withSign s v + withSign t w) (UnpackedFloat.add Format.binary64 a b) := by
  have self := h.roundsTo
  have self' := h'.roundsTo
  cases h with
  | zero =>
    rw [withSign_zero, zero_add]
    cases h' with
    | zero =>
      rw [withSign_zero]
      cases s <;> cases t <;> exact roundsTo_zero _
    | finite => exact self'
  | @finite m d =>
    cases h' with
    | zero =>
      rw [withSign_zero, add_zero]
      exact self
    | @finite n e =>
      have aligned : withSign s (weight m d) + withSign t (weight n e) =
          ((s.apply (m <<< (d - min d e).toNat : Nat) +
            t.apply (n <<< (e - min d e).toNat : Nat) : Int) : Rat) * 2 ^ min d e := by
        rw [Int.cast_add, add_mul, apply_mul_unit, apply_mul_unit, weight_shiftLeft m (min_le_left d e),
          weight_shiftLeft n (min_le_right d e)]
      rw [aligned]
      exact roundsTo_normalize _ _

/-- A difference is the sum with the other sign. -/
theorem unpackedSub_eq (a b : UnpackedFloat) :
    UnpackedFloat.sub Format.binary64 a b = UnpackedFloat.add Format.binary64 a b.neg := by
  cases a with
  | notANumber => rfl
  | infinity s => cases b <;> rfl
  | zero s =>
    cases b with
    | notANumber | infinity t | finite t => rfl
    | zero t => rfl
  | finite s m e pos =>
    cases b with
    | notANumber | infinity t | zero t => rfl
    | finite t n d pos' =>
      cases t with
      | negative =>
        exact congrArg (UnpackedFloat.normalize Format.binary64 · (min e d) .positive) (Int.sub_neg _ _)
      | positive => rfl

/-- A sum is the exact one, rounded. -/
theorem isRoundingOf_add (finite : x.isFinite = true) (finite' : y.isFinite = true) :
    IsRoundingOf (x + y) (exactValue x + exactValue y) := by
  obtain ⟨s, v, sized, value⟩ := exists_sized finite
  obtain ⟨t, w, sized', value'⟩ := exists_sized finite'
  rw [value, value']
  exact .of_roundsTo rfl (roundsTo_add sized sized')

/-- A difference is the exact one, rounded. -/
theorem isRoundingOf_sub (finite : x.isFinite = true) (finite' : y.isFinite = true) :
    IsRoundingOf (x - y) (exactValue x - exactValue y) := by
  obtain ⟨s, v, sized, value⟩ := exists_sized finite
  obtain ⟨t, w, sized', value'⟩ := exists_sized finite'
  have packed : (x - y).toModel.unpack = (Float.Model.pack
      (UnpackedFloat.add Format.binary64 x.toModel.unpack y.toModel.unpack.neg)).unpack := by
    rw [← unpackedSub_eq]
    rfl
  rw [value, value', sub_eq_add_neg, ← withSign_neg]
  exact .of_roundsTo packed (roundsTo_add sized sized'.neg)

/-! ## Differences are hardly rounded -/

/-- A finite double is a whole number of the smallest units. -/
theorem exists_units (finite : x.isFinite = true) : ∃ k : Int, exactValue x = k * 2 ^ (-1074 : Int) := by
  obtain ⟨s, w, sized, value⟩ := exists_sized finite
  rw [value]
  generalize x.toModel.unpack = a at sized
  cases sized with
  | zero => exact ⟨0, by rw [withSign_zero, Int.cast_zero, zero_mul]⟩
  | @finite m d _ normalized =>
    refine ⟨s.apply (m <<< (d - -1074).toNat : Nat), ?_⟩
    rw [apply_mul_unit, weight_shiftLeft m normalized.least]

/-- A whole number of units is rounded by `2 ^ -53` of it at most: a small one is not rounded at
all. -/
theorem Rounds.abs_sub_le_of_units {n : Nat} (h : Rounds (weight n (-1074)) w) :
    |w - weight n (-1074)| ≤ weight n (-1074) / 2 ^ 53 := by
  rcases Nat.lt_or_ge n (2 ^ 52) with small | large
  · have normalized : IsNormalized n (-1074) := ⟨by omega, by decide, .inl rfl⟩
    rw [h.unique (.of_isNormalized normalized), sub_self, abs_zero]
    exact div_nonneg (weight_nonneg _ _) (by positivity)
  · refine h.abs_sub_le ?_
    rw [← weight_least_full]
    exact weight_le_weight.2 large

/-- The value of a finite double is the number that it stands for, rounded. -/
theorem IsRoundingOf.rounds (h : IsRoundingOf x v) (finite : x.isFinite = true) (nonneg : 0 ≤ v) :
    Rounds v (exactValue x) := by
  rw [exactValue_eq_unpackedValue]
  replace finite : x.toModel.unpack.isFinite = true := finite
  cases h with
  | infinite unpack =>
    rw [unpack] at finite
    cases finite
  | finite h =>
    obtain ⟨s, w, sized, rounds, side⟩ := h
    rw [abs_of_nonneg nonneg] at rounds
    rw [sized.unpackedValue_eq]
    cases s with
    | positive => exact rounds
    | negative =>
      have zero : v = 0 := le_antisymm (neg_nonneg.1 side) nonneg
      rw [zero] at rounds ⊢
      rw [rounds.unique rounds_zero, withSign_zero]
      exact rounds_zero

/-- A difference of doubles is rounded by `2 ^ -53` of it at most, also if it is very small. -/
theorem abs_exactValue_sub_le (finite : x.isFinite = true) (finite' : y.isFinite = true)
    (finite_sub : (x - y).isFinite = true) (le : exactValue y ≤ exactValue x) :
    |exactValue (x - y) - (exactValue x - exactValue y)| ≤ (exactValue x - exactValue y) / 2 ^ 53 := by
  obtain ⟨k, hk⟩ := exists_units finite
  obtain ⟨l, hl⟩ := exists_units finite'
  have unit : (0 : Rat) < 2 ^ (-1074 : Int) := by positivity
  have units : exactValue x - exactValue y = weight (k - l).toNat (-1074) := by
    have nonneg : 0 ≤ k - l := by
      rw [hk, hl, mul_le_mul_iff_left₀ unit, Int.cast_le] at le
      omega
    rw [hk, hl, ← sub_mul, ← Int.cast_sub, weight, ← Int.cast_natCast, Int.toNat_of_nonneg nonneg]
  have rounds := (isRoundingOf_sub finite finite').rounds finite_sub (sub_nonneg.2 le)
  rw [units] at rounds ⊢
  exact rounds.abs_sub_le_of_units

/-! ## Products and quotients -/

/-- A product with a positive double is the exact one, rounded. -/
theorem isRoundingOf_mul (finite : x.isFinite = true) (pos : 0 < y) (finite' : y.isFinite = true) :
    IsRoundingOf (x * y) (exactValue x * exactValue y) := by
  obtain ⟨s, v, sized, value⟩ := exists_sized finite
  obtain ⟨w, positive, denotes⟩ := exists_denotes pos finite'
  have product : RoundsTo (withSign s (v * w))
      (UnpackedFloat.mul Format.binary64 x.toModel.unpack y.toModel.unpack) := by
    unfold Denotes at denotes
    generalize x.toModel.unpack = a at sized
    generalize y.toModel.unpack = b at denotes
    cases denotes with
    | zero => exact absurd positive (lt_irrefl 0)
    | @finite k e pos' hk =>
      cases sized with
      | zero =>
        rw [zero_mul, withSign_zero]
        exact roundsTo_zero (s * .positive)
      | @finite m d pos hm =>
        obtain ⟨p, rounds, sized⟩ := exists_rounds_mul s pos pos' (fits_mul pos pos' hm hk)
        exact rounds.roundsTo sized (mul_nonneg (weight_nonneg m d) (weight_nonneg k e))
  have signed : exactValue x * exactValue y = withSign s (v * w) := by
    rw [value, exactValue_eq denotes]
    cases s with
    | negative => exact neg_mul v w
    | positive => rfl
  rw [signed]
  exact .of_roundsTo rfl product

/-- A quotient by a positive double is the exact one, rounded. -/
theorem isRoundingOf_div (finite : x.isFinite = true) (pos : 0 < y) (finite' : y.isFinite = true) :
    IsRoundingOf (x / y) (exactValue x / exactValue y) := by
  obtain ⟨s, v, sized, value⟩ := exists_sized finite
  obtain ⟨w, positive, denotes⟩ := exists_denotes pos finite'
  have quotient : RoundsTo (withSign s (v / w))
      (UnpackedFloat.div Format.binary64 x.toModel.unpack y.toModel.unpack) := by
    unfold Denotes at denotes
    generalize x.toModel.unpack = a at sized
    generalize y.toModel.unpack = b at denotes
    cases denotes with
    | zero => exact absurd positive (lt_irrefl 0)
    | @finite k e pos' hk =>
      cases sized with
      | zero =>
        rw [zero_div, withSign_zero]
        exact roundsTo_zero (s / .positive)
      | @finite m d pos hm =>
        obtain ⟨p, rounds, sized⟩ := exists_rounds_div s d e pos pos'
        exact rounds.roundsTo sized (div_nonneg (weight_nonneg m d) (weight_nonneg k e))
  have signed : exactValue x / exactValue y = withSign s (v / w) := by
    rw [value, exactValue_eq denotes]
    cases s with
    | negative => exact neg_div w v
    | positive => rfl
  rw [signed]
  exact .of_roundsTo rfl quotient

/-! ## What is no number -/

theorem unpack_of_isNaN (h : x.isNaN = true) : x.toModel.unpack = .notANumber := by
  replace h : x.toModel.unpack.isNaN = true := h
  generalize x.toModel.unpack = a at *
  cases a with
  | notANumber => rfl
  | infinity s | zero s | finite s => cases h

theorem isNaN_mul_of_left (h : x.isNaN = true) (y : Float) : (x * y).isNaN = true := by
  have none : UnpackedFloat.mul Format.binary64 .notANumber y.toModel.unpack = .notANumber := by
    cases y.toModel.unpack <;> rfl
  show (x * y).toModel.unpack.isNaN = true
  rw [unpack_mul, unpack_of_isNaN h, none]
  rfl

/-- Numbers have numbers for products only. -/
theorem not_isNaN_of_mul (number : (x * y).isNaN = false) : x.isNaN = false := by
  by_contra none
  rw [isNaN_mul_of_left (eq_true_of_ne_false none)] at number
  cases number

theorem isNaN_div_of_left (h : x.isNaN = true) (y : Float) : (x / y).isNaN = true := by
  have none : UnpackedFloat.div Format.binary64 .notANumber y.toModel.unpack = .notANumber := by
    cases y.toModel.unpack <;> rfl
  show (x / y).toModel.unpack.isNaN = true
  rw [unpack_div, unpack_of_isNaN h, none]
  rfl

theorem isNaN_sub_of_right (x : Float) (h : y.isNaN = true) : (x - y).isNaN = true := by
  have none : UnpackedFloat.sub Format.binary64 x.toModel.unpack .notANumber = .notANumber := by
    cases x.toModel.unpack <;> rfl
  show (x - y).toModel.unpack.isNaN = true
  rw [unpack_sub, unpack_of_isNaN h, none]
  rfl

/-! ## Functions that grow with a double -/

/-- A function of doubles that is a growing function of their exact values, rounded, and keeps
infinities. -/
structure Grows (f : Float → Float) (g : Rat → Rat) : Prop where
  monotone : Monotone g
  rounded : ∀ x, x.isFinite = true → IsRoundingOf (f x) (g (exactValue x))
  infinite : ∀ x s, x.toModel.unpack = .infinity s → (f x).toModel.unpack = .infinity s

namespace Grows

variable {f : Float → Float} {g : Rat → Rat}

theorem not_isNaN (h : Grows f g) (number : x.isNaN = false) : (f x).isNaN = false := by
  cases finite : x.isFinite with
  | true => exact (h.rounded x finite).not_isNaN
  | false =>
    obtain ⟨s, unpack⟩ := exists_unpack_eq_infinity number finite
    exact not_isNaN_of_unpack (h.infinite x s unpack) rfl

/-- A greater double has no smaller value. -/
theorem le (h : Grows f g) (le : x ≤ y) : f x ≤ f y := by
  obtain ⟨number, number'⟩ := not_isNaN_of_le le
  cases finite : x.isFinite with
  | false =>
    obtain ⟨s, unpack⟩ := exists_unpack_eq_infinity number finite
    cases s with
    | negative => exact infinity_le (h.not_isNaN number') (h.infinite x _ unpack)
    | positive =>
      exact le_infinity (h.not_isNaN number) (h.infinite y _ (unpack_of_infinity_le le unpack))
  | true =>
    cases finite' : y.isFinite with
    | true =>
      exact (h.rounded x finite).le (h.rounded y finite')
        (h.monotone ((exactValue_le_iff finite finite').2 le))
    | false =>
      obtain ⟨s, unpack⟩ := exists_unpack_eq_infinity number' finite'
      cases s with
      | positive => exact le_infinity (h.not_isNaN number) (h.infinite y _ unpack)
      | negative =>
        exact infinity_le (h.not_isNaN number') (h.infinite x _ (unpack_of_le_infinity le unpack))

/-- Where the exact function keeps zero from below, no result is below zero. -/
theorem nonneg (h : Grows f g) (start : 0 ≤ g 0) (nonneg : 0 ≤ x) : 0 ≤ f x := by
  have least := h.rounded 0 denotes_zero.isFinite
  rw [exactValue_zero] at least
  exact le_trans (isRoundingOf_zero.le least start) (h.le nonneg)

end Grows

theorem grows_add_left (finite : z.isFinite = true) : Grows (z + ·) (exactValue z + ·) where
  monotone _ _ le := add_le_add_right le _
  rounded _ finite' := isRoundingOf_add finite finite'
  infinite x s unpack := by
    replace finite : z.toModel.unpack.isFinite = true := finite
    show (z + x).toModel.unpack = _
    rw [unpack_add, unpack]
    generalize z.toModel.unpack = a at finite
    cases a with
    | notANumber | infinity t => cases finite
    | zero t | finite t => exact unpack_pack_infinity s

theorem grows_add_right (finite : z.isFinite = true) : Grows (· + z) (· + exactValue z) where
  monotone _ _ le := add_le_add_left le _
  rounded _ finite' := isRoundingOf_add finite' finite
  infinite x s unpack := by
    replace finite : z.toModel.unpack.isFinite = true := finite
    show (x + z).toModel.unpack = _
    rw [unpack_add, unpack]
    generalize z.toModel.unpack = a at finite
    cases a with
    | notANumber | infinity t => cases finite
    | zero t | finite t => exact unpack_pack_infinity s

theorem grows_sub (finite : z.isFinite = true) : Grows (· - z) (· - exactValue z) where
  monotone _ _ le := sub_le_sub_right le _
  rounded _ finite' := isRoundingOf_sub finite' finite
  infinite x s unpack := by
    replace finite : z.toModel.unpack.isFinite = true := finite
    show (x - z).toModel.unpack = _
    rw [unpack_sub, unpack]
    generalize z.toModel.unpack = a at finite
    cases a with
    | notANumber | infinity t => cases finite
    | zero t | finite t => exact unpack_pack_infinity s

theorem grows_mul (pos : 0 < z) (finite : z.isFinite = true) : Grows (· * z) (· * exactValue z) where
  monotone _ _ le := mul_le_mul_of_nonneg_right le (exactValue_nonneg (le_of_lt pos))
  rounded _ finite' := isRoundingOf_mul finite' pos finite
  infinite x s unpack := by
    obtain ⟨w, positive, denotes⟩ := exists_denotes pos finite
    unfold Denotes at denotes
    show (x * z).toModel.unpack = _
    rw [unpack_mul, unpack]
    generalize z.toModel.unpack = a at denotes
    cases denotes with
    | zero => exact absurd positive (lt_irrefl 0)
    | finite => cases s <;> exact unpack_pack_infinity _

theorem grows_div (pos : 0 < z) (finite : z.isFinite = true) : Grows (· / z) (· / exactValue z) where
  monotone _ _ le := div_le_div_of_nonneg_right le (exactValue_nonneg (le_of_lt pos))
  rounded _ finite' := isRoundingOf_div finite' pos finite
  infinite x s unpack := by
    obtain ⟨w, positive, denotes⟩ := exists_denotes pos finite
    unfold Denotes at denotes
    show (x / z).toModel.unpack = _
    rw [unpack_div, unpack]
    generalize z.toModel.unpack = a at denotes
    cases denotes with
    | zero => exact absurd positive (lt_irrefl 0)
    | finite => cases s <;> exact unpack_pack_infinity _

/-! ## What is taken off a double -/

theorem not_isNaN_sub (finite : z.isFinite = true) (number : x.isNaN = false) :
    (z - x).isNaN = false := by
  cases finite' : x.isFinite with
  | true => exact (isRoundingOf_sub finite finite').not_isNaN
  | false =>
    obtain ⟨s, unpack⟩ := exists_unpack_eq_infinity number finite'
    exact not_isNaN_of_unpack (sub_infinite finite unpack) rfl

/-- The more is taken off a number, the less is left. -/
theorem sub_le_sub_of_le (finite : z.isFinite = true) (le : x ≤ y) : z - y ≤ z - x := by
  obtain ⟨number, number'⟩ := not_isNaN_of_le le
  cases finite_x : x.isFinite with
  | false =>
    obtain ⟨s, unpack⟩ := exists_unpack_eq_infinity number finite_x
    cases s with
    | negative => exact le_infinity (not_isNaN_sub finite number') (sub_infinite finite unpack)
    | positive =>
      have unpack' := sub_infinite finite (unpack_of_infinity_le le unpack)
      exact infinity_le (not_isNaN_sub finite number) unpack'
  | true =>
    cases finite_y : y.isFinite with
    | true =>
      have values := (exactValue_le_iff finite_x finite_y).2 le
      exact (isRoundingOf_sub finite finite_y).le (isRoundingOf_sub finite finite_x)
        (sub_le_sub_left values _)
    | false =>
      obtain ⟨s, unpack⟩ := exists_unpack_eq_infinity number' finite_y
      cases s with
      | positive => exact infinity_le (not_isNaN_sub finite number) (sub_infinite finite unpack)
      | negative =>
        have unpack' := sub_infinite finite (unpack_of_le_infinity le unpack)
        exact le_infinity (not_isNaN_sub finite number') unpack'

/-! ## Numbers that are not negative -/

theorem unpack_of_nonneg (nonneg : 0 ≤ x) (infinite : x.isFinite = false) :
    x.toModel.unpack = .infinity .positive := by
  obtain ⟨s, unpack⟩ := exists_unpack_eq_infinity (not_isNaN_of_le nonneg).2 infinite
  cases s with
  | positive => exact unpack
  | negative =>
    have finite : (0 : Float).toModel.unpack.isFinite = true := denotes_zero.isFinite
    rw [unpack_of_le_infinity nonneg unpack] at finite
    cases finite

/-- An infinity is not made finite by what is added to it. -/
theorem infinite_add (hx : x.toModel.unpack = .infinity .positive) (nonneg : 0 ≤ y) :
    (x + y).toModel.unpack = .infinity .positive := by
  cases finite : y.isFinite with
  | true => exact (grows_add_right finite).infinite x _ hx
  | false =>
    rw [unpack_add, hx, unpack_of_nonneg nonneg finite]
    exact unpack_pack_infinity _

theorem add_infinite (nonneg : 0 ≤ x) (hy : y.toModel.unpack = .infinity .positive) :
    (x + y).toModel.unpack = .infinity .positive := by
  cases finite : x.isFinite with
  | true => exact (grows_add_left finite).infinite y _ hy
  | false =>
    have nonneg' : 0 ≤ y := le_trans nonneg (le_infinity (not_isNaN_of_le nonneg).2 hy)
    exact infinite_add (unpack_of_nonneg nonneg finite) nonneg'

theorem nonneg_add (nonneg : 0 ≤ x) (nonneg' : 0 ≤ y) : 0 ≤ x + y := by
  cases finite : y.isFinite with
  | true =>
    refine (grows_add_right finite).nonneg ?_ nonneg
    rw [zero_add]
    exact exactValue_nonneg nonneg'
  | false =>
    exact le_infinity denotes_zero.not_isNaN (add_infinite nonneg (unpack_of_nonneg nonneg' finite))

theorem nonneg_mul (nonneg : 0 ≤ x) (pos : 0 < y) (finite : y.isFinite = true) : 0 ≤ x * y :=
  (grows_mul pos finite).nonneg (zero_mul _).ge nonneg

/-- A number that is not negative is no less after a factor of one or more. -/
theorem le_mul_of_one_le (nonneg : 0 ≤ x) (one_le : 1 ≤ y) (finite : y.isFinite = true) : x ≤ x * y := by
  have grows := grows_mul (lt_of_lt_of_le (by decide +kernel) one_le) finite
  cases finite_x : x.isFinite with
  | true =>
    have factor := (exactValue_le_iff denotes_one.isFinite finite).2 one_le
    rw [exactValue_eq denotes_one] at factor
    have grown := le_mul_of_one_le_right (exactValue_nonneg nonneg) factor
    exact (IsRoundingOf.of_isFinite finite_x).le (grows.rounded x finite_x) grown
  | false =>
    exact le_infinity (not_isNaN_of_le nonneg).2 (grows.infinite x _ (unpack_of_nonneg nonneg finite_x))

/-- Products do not depend on the order of their factors. -/
theorem mul_swap (x y : Float) : x * y = y * x := by
  have swapped (a b : UnpackedFloat) :
      UnpackedFloat.mul Format.binary64 a b = UnpackedFloat.mul Format.binary64 b a := by
    cases a with
    | notANumber => cases b <;> rfl
    | infinity s =>
      cases b with
      | notANumber | zero t => rfl
      | infinity t | finite t => cases s <;> cases t <;> rfl
    | zero s =>
      cases b with
      | notANumber | infinity t => rfl
      | zero t | finite t => cases s <;> cases t <;> rfl
    | finite s m e pos =>
      cases b with
      | notANumber => rfl
      | infinity t | zero t => cases s <;> cases t <;> rfl
      | finite t n d pos' =>
        have signs : s * t = t * s := by cases s <;> cases t <;> rfl
        show roundWithAccuracy _ (s * t) (m * n) (e + d) .exact =
          roundWithAccuracy _ (t * s) (n * m) (d + e) .exact
        rw [signs, Nat.mul_comm, Int.add_comm]
  exact congrArg (fun u => Float.ofModel (Float.Model.pack u)) (swapped x.toModel.unpack y.toModel.unpack)

/-- A sum grows with its parts, infinite ones included. -/
theorem add_grows (nonneg : 0 ≤ x) (le : x ≤ y) (nonneg' : 0 ≤ z) : x + z ≤ y + z ∧ z + x ≤ z + y := by
  have nonneg'' := le_trans nonneg le
  cases finite : z.isFinite with
  | true => exact ⟨(grows_add_right finite).le le, (grows_add_left finite).le le⟩
  | false =>
    have infinite := unpack_of_nonneg nonneg' finite
    exact ⟨le_infinity (not_isNaN_of_le (nonneg_add nonneg nonneg')).2 (add_infinite nonneg'' infinite),
      le_infinity (not_isNaN_of_le (nonneg_add nonneg' nonneg)).2 (infinite_add infinite nonneg'')⟩

/-! ## Counts -/

theorem isNearest_decimal {n : Nat} (pos : 0 < n) : IsNearest (Scale.decimal n 0) n := by
  have nearest := isNearest_ofScientific pos (show signed true 0 ≤ 2048 by decide)
  rwa [show signed true 0 = 0 from rfl, zpow_zero, mul_one] at nearest

/-- A count that is not beyond all doubles is a double, rounded. -/
theorem decimal_of_pos {n : Nat} (pos : 0 < n) (small : n < 2 ^ 1023) :
    0 < (Scale.decimal n 0 : Float) ∧ (Scale.decimal n 0 : Float).isFinite = true := by
  have moderate : Moderate n := by
    have power : weight (2 ^ 52) 971 = 2 ^ 1023 := by
      rw [weight, Nat.cast_pow, ← zpow_natCast, ← zpow_natCast, Nat.cast_ofNat, ← zpow_add₀ two_ne_zero]
      rfl
    refine ⟨2 ^ 52, 971, ⟨⟨by decide, by decide, .inr le_rfl⟩, le_rfl⟩, ?_⟩
    rw [power]
    exact_mod_cast small.le
  obtain ⟨w, rounds, denotes⟩ := (isNearest_decimal pos).exists_denotes moderate
  have one_le : 1 ≤ w := denotes_one.rounds_self.mono rounds (by exact_mod_cast pos)
  exact ⟨(denotes_zero.lt_iff denotes).2 (one_pos.trans_le one_le), denotes.isFinite⟩

theorem decimal_nonneg (n : Nat) : 0 ≤ (Scale.decimal n 0 : Float) := by
  rcases Nat.eq_zero_or_pos n with rfl | pos
  · decide +kernel
  · exact le_of_not_lt denotes_zero.not_isNaN (isNearest_decimal pos).not_isNaN
      (isNearest_decimal pos).not_neg

/-- A part of nothing is not above zero. -/
theorem not_pos_zero_div (x : Float) : ¬0 < (Scale.decimal 0 0 : Float) / x := by
  have quotient : (∃ s, UnpackedFloat.div Format.binary64 (.zero .positive) x.toModel.unpack = .zero s) ∨
      UnpackedFloat.div Format.binary64 (.zero .positive) x.toModel.unpack = .notANumber := by
    cases x.toModel.unpack with
    | notANumber | zero s => exact .inr rfl
    | infinity s | finite s => exact .inl ⟨_, rfl⟩
  rw [show (Scale.decimal 0 0 : Float) = 0 by decide +kernel, lt_iff_compare]
  show ¬(UnpackedFloat.zero .positive).compare (Float.Model.pack
    (UnpackedFloat.div Format.binary64 (.zero .positive) x.toModel.unpack)).unpack = some .lt
  obtain ⟨s, zero⟩ | none := quotient
  · rw [zero]
    cases s <;> exact nofun
  · rw [none]
    exact nofun

end Teller.Number
