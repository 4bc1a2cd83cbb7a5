import Teller.Proofs.Number.Order

/-!
# Bounds on doubles

A check that a double is not outside of a bound lets NaN pass. For doubles that are numbers it is
the same as a check that they are within the bound: of these each has a place in one order, by sign,
then by exponent, then by mantissa.

    compare_eq_some                 doubles that are numbers compare like their places
    not_isNaN_of_le                 what is within a bound is a number
    le_of_not_lt                    a number that is not outside of a bound is within it
    isFinite_of_le_of_le            what lies between finite numbers is finite
-/

namespace Teller.Number

open Float.Model

/-! ## Places -/

/-- Where a number stands among the others. -/
structure Place where
  band : Int
  exponent : Int
  mantissa : Int

/-- Places in their order. -/
def Place.compare : Place → Place → Ordering :=
  compareLex (compareOn band) (compareLex (compareOn exponent) (compareOn mantissa))

instance : Std.TransCmp Place.compare := Std.instTransCmpCompareLex

/-- The place of a double. Below zero a larger size comes first. -/
def place : UnpackedFloat → Place
  | .infinity .negative => ⟨-2, 0, 0⟩
  | .finite .negative m e _ => ⟨-1, -e, -m⟩
  | .zero _ | .notANumber => ⟨0, 0, 0⟩
  | .finite .positive m e _ => ⟨1, e, m⟩
  | .infinity .positive => ⟨2, 0, 0⟩

theorem compare_natCast (m n : Nat) : compare (m : Int) (n : Int) = compare m n := by
  simp only [Int.compare_eq_ite_lt, Nat.compare_eq_ite_lt, Int.ofNat_lt]

theorem compare_neg (d e : Int) : compare (-d) (-e) = compare e d := by
  simp only [Int.compare_eq_ite_lt, Int.neg_lt_neg_iff]

theorem compare_above_zero (d e : Int) (m n : Nat) :
    Place.compare ⟨1, d, m⟩ ⟨1, e, n⟩ = (compare d e).then (compare m n) := by
  rw [← compare_natCast]
  rfl

theorem compare_below_zero (d e : Int) (m n : Nat) :
    Place.compare ⟨-1, -d, -m⟩ ⟨-1, -e, -n⟩ = ((compare d e).then (compare m n)).swap := by
  rw [Ordering.swap_then, Int.compare_swap, Nat.compare_swap, ← compare_natCast,
    ← compare_neg d e, ← compare_neg (m : Int) n]
  rfl

/-- Doubles that are numbers compare like their places. -/
theorem compare_eq_some {a b : UnpackedFloat} (ha : a.isNaN = false) (hb : b.isNaN = false) :
    a.compare b = some ((place a).compare (place b)) := by
  cases a with
  | notANumber => cases ha
  | infinity s =>
    cases b with
    | notANumber => cases hb
    | infinity t => cases s <;> cases t <;> rfl
    | zero t => cases s <;> rfl
    | finite t n e _ => cases s <;> cases t <;> rfl
  | zero s =>
    cases b with
    | notANumber => cases hb
    | infinity t => cases t <;> rfl
    | zero t => rfl
    | finite t n e _ => cases t <;> rfl
  | finite s m d _ =>
    cases b with
    | notANumber => cases hb
    | infinity t => cases s <;> cases t <;> rfl
    | zero t => cases s <;> rfl
    | finite t n e _ =>
      -- only two numbers on the same side of zero are compared by their size
      cases s with
      | negative =>
        cases t with
        | negative => exact congrArg some (compare_below_zero d e m n).symm
        | positive => rfl
      | positive =>
        cases t with
        | negative => rfl
        | positive => exact congrArg some (compare_above_zero d e m n).symm

theorem not_isNaN_of_compare {a b : UnpackedFloat} {o : Ordering} (h : a.compare b = some o) :
    a.isNaN = false ∧ b.isNaN = false := by
  cases a with
  | notANumber => cases h
  | infinity s | zero s | finite s m e _ =>
    cases b with
    | notANumber => cases s <;> cases h
    | infinity t | zero t | finite t n d _ => exact ⟨rfl, rfl⟩

/-! ## Doubles in order -/

/-- How the places of two doubles compare. -/
def order (x y : Float) : Ordering := (place x.toModel.unpack).compare (place y.toModel.unpack)

theorem order_swap (x y : Float) : (order x y).swap = order y x := by
  unfold order
  exact Std.OrientedCmp.eq_swap.symm

theorem order_trans {x y z : Float} (h : (order x y).isLE = true) (h' : (order y z).isLE = true) :
    (order x z).isLE = true := by
  unfold order at *
  exact Std.TransCmp.isLE_trans h h'

theorem isLE_order_iff (x y : Float) : (order x y).isLE = true ↔ ¬order y x = .lt := by
  rw [← order_swap y x, Ordering.isLE_swap, Ordering.isGE_iff_ne_lt]

theorem le_iff (x y : Float) :
    x ≤ y ↔ x.isNaN = false ∧ y.isNaN = false ∧ (order x y).isLE = true := by
  show decide (x.toModel.le y.toModel = true) = true ↔ _
  rw [decide_eq_true_iff]
  show (x.toModel.unpack.compare y.toModel.unpack).any (·.isLE) = true ↔ _
  constructor
  · intro h
    obtain ⟨o, ho, le⟩ := (Option.any_eq_true ..).1 h
    obtain ⟨hx, hy⟩ := not_isNaN_of_compare ho
    rw [compare_eq_some hx hy] at ho
    cases ho
    exact ⟨hx, hy, le⟩
  · rintro ⟨hx, hy, le⟩
    rw [compare_eq_some hx hy]
    exact le

theorem lt_iff {x y : Float} (hx : x.isNaN = false) (hy : y.isNaN = false) :
    x < y ↔ order x y = .lt := by
  rw [lt_iff_compare, compare_eq_some hx hy, Option.some.injEq, order]

theorem beq_iff {x y : Float} (hx : x.isNaN = false) (hy : y.isNaN = false) :
    (x == y) = true ↔ order x y = .eq := by
  rw [beq_iff_compare, compare_eq_some hx hy, Option.some.injEq, order]

/-- What is within a bound is a number. -/
theorem not_isNaN_of_le {x y : Float} (h : x ≤ y) : x.isNaN = false ∧ y.isNaN = false := by
  obtain ⟨hx, hy, _⟩ := (le_iff x y).1 h
  exact ⟨hx, hy⟩

theorem not_isNaN_of_lt {x y : Float} (h : x < y) : x.isNaN = false ∧ y.isNaN = false :=
  not_isNaN_of_compare ((lt_iff_compare x y).1 h)

/-- Numbers are within themselves as a bound. -/
theorem le_self {x : Float} (hx : x.isNaN = false) : x ≤ x :=
  (le_iff x x).2 ⟨hx, hx, by rw [order, show Place.compare _ _ = .eq from Std.ReflCmp.compare_self]; rfl⟩

theorem beq_eq_false_of_lt {x y : Float} (h : x < y) : (x == y) = false := by
  obtain ⟨hx, hy⟩ := not_isNaN_of_lt h
  apply eq_false_of_ne_true
  rw [beq_iff hx hy, (lt_iff hx hy).1 h]
  exact nofun

theorem le_of_lt {x y : Float} (h : x < y) : x ≤ y := by
  obtain ⟨hx, hy⟩ := not_isNaN_of_lt h
  refine (le_iff x y).2 ⟨hx, hy, ?_⟩
  rw [(lt_iff hx hy).1 h]
  rfl

/-- A number that is not outside of a bound is within it. -/
theorem le_of_not_lt {x y : Float} (hx : x.isNaN = false) (hy : y.isNaN = false) (h : ¬y < x) :
    x ≤ y := by
  rw [lt_iff hy hx, ← isLE_order_iff] at h
  exact (le_iff x y).2 ⟨hx, hy, h⟩

/-- Of two numbers the one is greater, or they are equal. -/
theorem lt_or_beq_of_not_lt {x y : Float} (hx : x.isNaN = false) (hy : y.isNaN = false) (h : ¬x < y) :
    y < x ∨ (x == y) = true := by
  rw [lt_iff hx hy] at h
  rw [lt_iff hy hx, beq_iff hx hy, ← order_swap, Ordering.swap_eq_lt]
  cases compared : order x y with
  | lt => exact absurd compared h
  | eq => exact .inr rfl
  | gt => exact .inl rfl

/-- What is within a bound is not outside of it. -/
theorem not_lt_of_le {x y : Float} (h : x ≤ y) : ¬y < x := by
  obtain ⟨hx, hy, le⟩ := (le_iff x y).1 h
  rw [lt_iff hy hx, ← isLE_order_iff]
  exact le

theorem le_trans {x y z : Float} (h : x ≤ y) (h' : y ≤ z) : x ≤ z := by
  obtain ⟨hx, _, le⟩ := (le_iff x y).1 h
  obtain ⟨_, hz, le'⟩ := (le_iff y z).1 h'
  exact (le_iff x z).2 ⟨hx, hz, order_trans le le'⟩

/-- What is below a number is below those above it. -/
theorem lt_of_lt_of_le {x y z : Float} (h : x < y) (h' : y ≤ z) : x < z := by
  obtain ⟨hx, hy⟩ := not_isNaN_of_lt h
  obtain ⟨_, hz, le⟩ := (le_iff y z).1 h'
  rw [lt_iff hx hy] at h
  rw [lt_iff hx hz]
  unfold order at *
  exact Std.TransCmp.lt_of_lt_of_isLE h le

theorem lt_trans {x y z : Float} (h : x < y) (h' : y < z) : x < z := by
  obtain ⟨hx, hy⟩ := not_isNaN_of_lt h
  obtain ⟨_, hz⟩ := not_isNaN_of_lt h'
  rw [lt_iff hx hy] at h
  rw [lt_iff hy hz] at h'
  rw [lt_iff hx hz]
  unfold order at *
  exact Std.TransCmp.lt_trans h h'

theorem not_isNaN_of_isFinite {x : Float} (h : x.isFinite = true) : x.isNaN = false := by
  replace h : x.toModel.unpack.isFinite = true := h
  show x.toModel.unpack.isNaN = false
  cases unpacked : x.toModel.unpack with
  | notANumber =>
    rw [unpacked] at h
    cases h
  | infinity s | zero s | finite s m e pos => rfl

/-- What lies between finite numbers is finite. -/
theorem isFinite_of_le_of_le {x y z : Float} (hx : x.isFinite) (hz : z.isFinite) (h : x ≤ y)
    (h' : y ≤ z) : y.isFinite := by
  obtain ⟨_, hy, above⟩ := (le_iff x y).1 h
  obtain ⟨_, _, below⟩ := (le_iff y z).1 h'
  unfold order at above below
  show y.toModel.unpack.isFinite = true
  replace hx : x.toModel.unpack.isFinite = true := hx
  replace hz : z.toModel.unpack.isFinite = true := hz
  replace hy : y.toModel.unpack.isNaN = false := hy
  generalize x.toModel.unpack = a at *
  generalize y.toModel.unpack = b at *
  generalize z.toModel.unpack = c at *
  cases b with
  | notANumber => cases hy
  | zero t | finite t n e _ => rfl
  | infinity t =>
    cases t with
    | negative =>
      cases a with
      | notANumber | infinity s => cases hx
      | zero s => cases above
      | finite s m d _ => cases s <;> cases above
    | positive =>
      cases c with
      | notANumber | infinity s => cases hz
      | zero s => cases below
      | finite s m d _ => cases s <;> cases below

end Teller.Number
