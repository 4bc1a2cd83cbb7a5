import Mathlib.Algebra.Order.Ring.Pow
import Teller.Proofs.Number.Places
import Teller.Proofs.Number.Scales

/-!
# Calculations close to the exact ones

A double has the value of an exact calculation but for some roundings, each of which changes a
number by `2 ^ -53` of it at most. Sums and maxima need no more roundings than their parts, products
and quotients as many as both together, and each operation adds one of its own. So a score that is
calculated in doubles is close to the one in rational numbers.

    Near                         two numbers that are apart by some roundings at most
    Near.of_rounds               one rounding
    Approximates                 a double that is near to a number
    Approximates.add, Approximates.mul, Approximates.div, Approximates.greater, Approximates.atMost
    Approximates.sum             sums from left to right
    Approximates.add_weighted    sums with a part of any weight
    Near.abs_sub_le              how far apart such numbers are
    Approximates.exists_roundTo_near   the same after rounding to six places
-/

namespace Teller.Number

variable {u v w r : Rat} {x y : Float} {j k n : Nat}

/-! ## Roundings -/

/-- What one rounding leaves of a number at least. -/
def kept : Rat := 1 - 1 / 2 ^ 53

theorem kept_pos : 0 < kept := by norm_num [kept]

theorem kept_le_one : kept ≤ 1 := by norm_num [kept]

theorem kept_pow_pos (n : Nat) : 0 < kept ^ n := pow_pos kept_pos n

theorem kept_pow_le_one (n : Nat) : kept ^ n ≤ 1 := pow_le_one₀ kept_pos.le kept_le_one

/-- A few roundings leave nearly all of a number. -/
theorem le_kept_pow (few : n ≤ 64) : 1 - 1 / 2 ^ 47 ≤ kept ^ n := by
  have bernoulli := one_add_mul_le_pow (show (-2 : Rat) ≤ -(1 / 2 ^ 53) by norm_num) n
  have count : (n : Rat) ≤ 64 := by exact_mod_cast few
  have lost : (n : Rat) * (1 / 2 ^ 53) ≤ 64 * (1 / 2 ^ 53) :=
    mul_le_mul_of_nonneg_right count (by positivity)
  unfold kept
  rw [sub_eq_add_neg 1 (1 / 2 ^ 53 : Rat)]
  linarith

/-- `w` is `v` but for `n` roundings. -/
structure Near (n : Nat) (v w : Rat) : Prop where
  below : v * kept ^ n ≤ w
  above : w * kept ^ n ≤ v

namespace Near

theorem refl (v : Rat) : Near 0 v v := ⟨by rw [pow_zero, mul_one], by rw [pow_zero, mul_one]⟩

theorem symm (h : Near n v w) : Near n w v := ⟨h.above, h.below⟩

theorem nonneg (h : Near n v w) (nonneg : 0 ≤ v) : 0 ≤ w :=
  (mul_nonneg nonneg (kept_pow_pos n).le).trans h.below

theorem pos (h : Near n v w) (pos : 0 < v) : 0 < w := (mul_pos pos (kept_pow_pos n)).trans_le h.below

theorem mono (h : Near n v w) (nonneg : 0 ≤ v) (le : n ≤ k) : Near k v w := by
  have less : kept ^ k ≤ kept ^ n := pow_le_pow_of_le_one kept_pos.le kept_le_one le
  exact ⟨(mul_le_mul_of_nonneg_left less nonneg).trans h.below,
    (mul_le_mul_of_nonneg_left less (h.nonneg nonneg)).trans h.above⟩

theorem trans (h : Near j v w) (h' : Near k w u) : Near (j + k) v u := by
  constructor
  · calc v * kept ^ (j + k) = v * kept ^ j * kept ^ k := by rw [pow_add, mul_assoc]
      _ ≤ w * kept ^ k := mul_le_mul_of_nonneg_right h.below (kept_pow_pos k).le
      _ ≤ u := h'.below
  · calc u * kept ^ (j + k) = u * kept ^ k * kept ^ j := by rw [add_comm j, pow_add, mul_assoc]
      _ ≤ w * kept ^ j := mul_le_mul_of_nonneg_right h'.above (kept_pow_pos j).le
      _ ≤ v := h.above

theorem add {v' w' : Rat} (h : Near n v w) (h' : Near n v' w') : Near n (v + v') (w + w') :=
  ⟨by rw [add_mul]; exact add_le_add h.below h'.below, by rw [add_mul]; exact add_le_add h.above h'.above⟩

theorem mul {v' w' : Rat} (h : Near j v w) (h' : Near k v' w') (nonneg : 0 ≤ v) (nonneg' : 0 ≤ v') :
    Near (j + k) (v * v') (w * w') := by
  have split (a b : Rat) : a * b * kept ^ (j + k) = a * kept ^ j * (b * kept ^ k) := by
    rw [pow_add, mul_mul_mul_comm]
  constructor
  · rw [split]
    exact mul_le_mul h.below h'.below (mul_nonneg nonneg' (kept_pow_pos k).le) (h.nonneg nonneg)
  · rw [split]
    exact mul_le_mul h.above h'.above (mul_nonneg (h'.nonneg nonneg') (kept_pow_pos k).le) nonneg

theorem inv (h : Near n v w) (pos : 0 < v) : Near n v⁻¹ w⁻¹ := by
  have pos' := h.pos pos
  constructor
  · rw [inv_mul_le_iff₀ pos, ← div_eq_mul_inv, le_div_iff₀ pos', mul_comm]
    exact h.above
  · rw [inv_mul_le_iff₀ pos', ← div_eq_mul_inv, le_div_iff₀ pos, mul_comm]
    exact h.below

theorem div {v' w' : Rat} (h : Near j v w) (h' : Near k v' w') (nonneg : 0 ≤ v) (pos' : 0 < v') :
    Near (j + k) (v / v') (w / w') := by
  rw [div_eq_mul_inv, div_eq_mul_inv]
  exact h.mul (h'.inv pos') nonneg (inv_nonneg.2 pos'.le)

theorem max {v' w' : Rat} (h : Near n v w) (h' : Near n v' w') : Near n (max v v') (max w w') := by
  constructor
  · rw [max_mul_of_nonneg _ _ (kept_pow_pos n).le]
    exact max_le_max h.below h'.below
  · rw [max_mul_of_nonneg _ _ (kept_pow_pos n).le]
    exact max_le_max h.above h'.above

theorem min {v' w' : Rat} (h : Near n v w) (h' : Near n v' w') : Near n (min v v') (min w w') := by
  constructor
  · rw [min_mul_of_nonneg _ _ (kept_pow_pos n).le]
    exact min_le_min h.below h'.below
  · rw [min_mul_of_nonneg _ _ (kept_pow_pos n).le]
    exact min_le_min h.above h'.above

/-- One rounding of a number that is not too small. -/
theorem of_rounds (h : Rounds v w) (not_tiny : 1 / 2 ^ 200 ≤ v) : Near 1 v w := by
  have near := abs_le.1 (h.near not_tiny)
  have positive : 0 < v := (show (0 : Rat) < 1 / 2 ^ 200 by positivity).trans_le not_tiny
  constructor
  · rw [pow_one, kept]
    linarith
  · rw [pow_one, kept]
    linarith

/-- After a few roundings most of a number is left. -/
theorem half_le (h : Near n v w) (few : n ≤ 64) (nonneg : 0 ≤ v) : v / 2 ≤ w := by
  have most := mul_le_mul_of_nonneg_left (le_kept_pow few) nonneg
  linarith [h.below]

/-- Few roundings do not double a number. -/
theorem le_double (h : Near n v w) (few : n ≤ 64) (nonneg : 0 ≤ v) : w ≤ 2 * v := by
  have := h.symm.half_le few (h.nonneg nonneg)
  linarith

/-- What is added to a number may be off by as much as a rounding loses. -/
theorem small_below {v' w' : Rat} (below : v * kept ^ n ≤ w) (large : 1 / 2 ^ 30 ≤ w) (nonneg : 0 ≤ v')
    (small : v' ≤ 1 / 2 ^ 180) (nonneg' : 0 ≤ w') : (v + v') * kept ^ (n + 1) ≤ w + w' := by
  have rounded : v * kept ^ (n + 1) ≤ w * kept := by
    rw [pow_succ, ← mul_assoc]
    exact mul_le_mul_of_nonneg_right below kept_pos.le
  have added : v' * kept ^ (n + 1) ≤ v' := mul_le_of_le_one_right nonneg (kept_pow_le_one _)
  have lost : (1 : Rat) / 2 ^ 180 ≤ 1 / 2 ^ 30 / 2 ^ 53 := by norm_num
  rw [add_mul]
  unfold kept at rounded added ⊢
  linarith

/-- Very small parts of a sum may be off by more. -/
theorem add_small {v' w' : Rat} (h : Near n v w) (few : n ≤ 64) (large : 1 / 2 ^ 20 ≤ v)
    (nonneg : 0 ≤ v') (nonneg' : 0 ≤ w') (small : v' ≤ 1 / 2 ^ 180) (small' : w' ≤ 1 / 2 ^ 180) :
    Near (n + 1) (v + v') (w + w') := by
  have positive : 0 ≤ v := (show (0 : Rat) ≤ 1 / 2 ^ 20 by positivity).trans large
  have half := h.half_le few positive
  exact ⟨small_below h.below (by linarith) nonneg small nonneg',
    small_below h.above (by linarith) nonneg' small' nonneg⟩

/-- How far apart two numbers are, for scores up to one. -/
theorem abs_sub_le (h : Near n v w) (few : n ≤ 64) (nonneg : 0 ≤ v) (le_one : v ≤ 1) :
    |w - v| ≤ 1 / 10 ^ 12 := by
  have most := mul_le_mul_of_nonneg_left (le_kept_pow few) nonneg
  have most' := mul_le_mul_of_nonneg_left (le_kept_pow few) (h.nonneg nonneg)
  have double := h.le_double few nonneg
  have below := h.below
  have above := h.above
  rw [abs_le]
  constructor <;> linarith

end Near

/-! ## Doubles -/

/-- The greatest double. -/
theorem isNormalized_greatest : IsNormalized (2 ^ 53 - 1) 971 := ⟨by decide, by decide, .inr (by decide)⟩

/-- A sum with a number that is not very large is not beyond all doubles. -/
theorem Denotes.moderate_add (h : Denotes y w) (small : v ≤ 2 ^ 100) (rounds : Rounds (v + w) r) :
    Moderate r := by
  obtain ⟨n, e, canonical, bound⟩ := h.moderate
  have greatest : w ≤ weight (2 ^ 53 - 1) 971 :=
    calc w ≤ weight n e := bound
      _ ≤ weight (2 ^ 53 - 1) e := weight_le_weight.2 (Nat.le_sub_one_of_lt canonical.small)
      _ ≤ weight (2 ^ 53 - 1) 971 := weight_le_weight_right canonical.greatest
  have half : (2 : Rat) ^ 100 < weight 1 (971 - 1) := by
    rw [weight, Nat.cast_one, one_mul, show (971 - 1 : Int) = (970 : Nat) from rfl, zpow_natCast]
    exact pow_lt_pow_right₀ one_lt_two (by decide)
  -- what lies less than half a unit above the greatest double is rounded to it
  have below : weight (2 ^ 53 - 1) 971 + 2 ^ 100 < halfway (2 ^ 53 - 1) 971 := by
    rw [halfway_eq_add]
    linarith
  have rounded := Rounds.down isNormalized_greatest (le_add_of_nonneg_right (by positivity)) below.le
    fun even => absurd even below.ne
  exact ⟨2 ^ 53 - 1, 971, ⟨isNormalized_greatest, le_rfl⟩, rounds.mono rounded (by linarith)⟩

theorem Denotes.add_zero {s : Float.Model.UnpackedFloat.Sign} (h : Denotes x v) (pos : 0 < v)
    (zero : y.toModel.unpack = .zero s) : Denotes (x + y) v := by
  have moderate := h.moderate
  show Sized .positive v (Float.Model.pack (Float.Model.UnpackedFloat.add Float.Model.Format.binary64
    x.toModel.unpack y.toModel.unpack)).unpack
  unfold Denotes at h
  rw [zero]
  generalize x.toModel.unpack = a at h
  cases h with
  | zero => exact absurd pos (lt_irrefl 0)
  | finite hm => exact (Sized.finite hm).unpack_pack moderate

theorem Denotes.exists_mul_zero {s : Float.Model.UnpackedFloat.Sign} (h : Denotes x v)
    (zero : y.toModel.unpack = .zero s) : ∃ t, (x * y).toModel.unpack = .zero t := by
  have product : ∃ t, Float.Model.UnpackedFloat.mul Float.Model.Format.binary64 x.toModel.unpack
      y.toModel.unpack = .zero t := by
    unfold Denotes at h
    rw [zero]
    generalize x.toModel.unpack = a at h
    cases h with
    | zero | finite => exact ⟨_, rfl⟩
  obtain ⟨t, product⟩ := product
  refine ⟨t, ?_⟩
  rw [unpack_mul, product]
  cases t <;> rfl

/-- The double stands for a number that is `v` but for `n` roundings. -/
def Approximates (n : Nat) (x : Float) (v : Rat) : Prop := ∃ w, Denotes x w ∧ Near n v w

namespace Approximates

theorem of_denotes (h : Denotes x v) : Approximates 0 x v := ⟨v, h, .refl v⟩

theorem nonneg (h : Approximates n x v) : 0 ≤ v := by
  obtain ⟨w, denotes, near⟩ := h
  exact near.symm.nonneg denotes.nonneg

theorem mono (h : Approximates n x v) (le : n ≤ k) : Approximates k x v := by
  have nonneg := h.nonneg
  obtain ⟨w, denotes, near⟩ := h
  exact ⟨w, denotes, near.mono nonneg le⟩

/-- A nearest double adds one rounding. -/
theorem of_isNearest (h : IsNearest x w) (near : Near n v w) (few : n ≤ 64) (not_tiny : 1 / 2 ^ 190 ≤ v)
    (moderate : Moderate w) : Approximates (n + 1) x v := by
  obtain ⟨r, rounds, denotes⟩ := h.exists_denotes moderate
  have positive : 0 ≤ v := (show (0 : Rat) ≤ 1 / 2 ^ 190 by positivity).trans not_tiny
  have half := near.half_le few positive
  have least : (1 : Rat) / 2 ^ 200 ≤ 1 / 2 ^ 190 / 2 := by norm_num
  exact ⟨r, denotes, near.trans (.of_rounds rounds (by linarith))⟩

theorem add (h : Approximates n x v) (h' : Approximates n y u) (few : n ≤ 64) (small : v ≤ 2 ^ 90)
    (not_tiny : 1 / 2 ^ 190 ≤ v + u) : Approximates (n + 1) (x + y) (v + u) := by
  have nonneg := h.nonneg
  have nonneg' := h'.nonneg
  obtain ⟨a, denotes, near⟩ := h
  obtain ⟨b, denotes', near'⟩ := h'
  obtain ⟨r, rounds, sum⟩ := denotes.exists_add denotes'
  have double := near.le_double few nonneg
  have half := (near.add near').half_le few (add_nonneg nonneg nonneg')
  have least : (1 : Rat) / 2 ^ 200 ≤ 1 / 2 ^ 190 / 2 := by norm_num
  have moderate := denotes'.moderate_add (by linarith) rounds
  exact ⟨r, sum moderate, (near.add near').trans (.of_rounds rounds (by linarith))⟩

/-- A product with a number below one, or one that is not very large. -/
theorem mul (h : Approximates j x v) (h' : Approximates k y u) (few : j + k ≤ 64)
    (not_tiny : 1 / 2 ^ 190 ≤ v * u) (bounded : v ≤ 9 / 10 ∨ v * u ≤ 2 ^ 100) :
    Approximates (j + k + 1) (x * y) (v * u) := by
  have nonneg := h.nonneg
  have nonneg' := h'.nonneg
  obtain ⟨a, denotes, near⟩ := h
  obtain ⟨b, denotes', near'⟩ := h'
  have product := near.mul near' nonneg nonneg'
  refine of_isNearest (denotes.mul denotes') product few not_tiny ?_
  rcases bounded with below_one | bounded
  · have most := mul_le_mul_of_nonneg_left (le_kept_pow (show j ≤ 64 by omega)) denotes.nonneg
    have above := near.above
    exact denotes'.moderate.of_le (mul_le_of_le_one_left denotes'.nonneg (by linarith))
  · have double := product.le_double few (mul_nonneg nonneg nonneg')
    exact moderate_two_pow.of_le (by linarith)

theorem div (h : Approximates j x v) (h' : Approximates k y u) (few : j + k ≤ 64) (pos' : 0 < u)
    (not_tiny : 1 / 2 ^ 190 ≤ v / u) (bounded : v / u ≤ 2 ^ 100) :
    Approximates (j + k + 1) (x / y) (v / u) := by
  have nonneg := h.nonneg
  obtain ⟨a, denotes, near⟩ := h
  obtain ⟨b, denotes', near'⟩ := h'
  have quotient := near.div near' nonneg pos'
  refine of_isNearest (denotes.div denotes' (near'.pos pos')) quotient few not_tiny ?_
  have double := quotient.le_double few (div_nonneg nonneg pos'.le)
  exact moderate_two_pow.of_le (by linarith)

theorem greater (h : Approximates n x v) (h' : Approximates n y u) :
    Approximates n (Scale.greater x y) (Scale.greater v u) := by
  obtain ⟨a, denotes, near⟩ := h
  obtain ⟨b, denotes', near'⟩ := h'
  refine ⟨max a b, ?_, ?_⟩
  · unfold Scale.greater
    split
    · next less => exact (max_eq_right ((denotes.lt_iff denotes').1 less).le).symm ▸ denotes'
    · next not_less =>
      exact (max_eq_left (not_lt.1 (mt (denotes.lt_iff denotes').2 not_less))).symm ▸ denotes
  · rw [Scale.greater_eq_max]
    exact near.max near'

theorem atMost (h : Approximates n x v) (h' : Approximates n y u) :
    Approximates n (Scale.atMost x y) (Scale.atMost v u) := by
  obtain ⟨a, denotes, near⟩ := h
  obtain ⟨b, denotes', near'⟩ := h'
  refine ⟨min a b, ?_, ?_⟩
  · unfold Scale.atMost
    split
    · next less => exact (min_eq_left ((denotes.lt_iff denotes').1 less).le).symm ▸ denotes
    · next not_less =>
      exact (min_eq_right (not_lt.1 (mt (denotes.lt_iff denotes').2 not_less))).symm ▸ denotes'
  · rw [Scale.atMost_eq_min]
    exact near.min near'

/-- A number of tenths. -/
theorem tenths {digits : Nat} (pos : 0 < digits) (small : digits ≤ 2 ^ 20) :
    Approximates 1 (Scale.decimal digits 1) (Scale.decimal digits 1) := by
  have digits_pos : (1 : Rat) ≤ digits := by exact_mod_cast pos
  have digits_small : (digits : Rat) ≤ 2 ^ 20 := by exact_mod_cast small
  have value : (digits : Rat) * 10 ^ signed true 1 = Scale.decimal digits 1 := by
    rw [Scale.decimal_eq]
    exact (div_eq_mul_inv ..).symm
  have nearest : IsNearest (Float.ofScientific digits true 1) (digits * 10 ^ signed true 1) :=
    isNearest_ofScientific pos (by decide)
  rw [value, Scale.decimal_eq] at nearest
  rw [Scale.decimal_eq]
  refine of_isNearest nearest (.refl _) (by decide) ?_ (moderate_two_pow.of_le ?_)
  · rw [le_div_iff₀ (by positivity)]
    refine le_trans' digits_pos ?_
    norm_num
  · rw [div_le_iff₀ (by positivity)]
    refine digits_small.trans ?_
    norm_num

/-! ## Sums of several numbers -/

/-- Numbers added one after the other to what there is already. -/
theorem foldl_add {xs : List Float} {vs : List Rat}
    (h : List.Forall₂ (fun x v => Approximates n x v ∧ 1 / 2 ^ 20 ≤ v ∧ v ≤ 1) xs vs)
    (start : Approximates k x v) (le : n ≤ k) (few : k + vs.length ≤ 64)
    (small : v + vs.length ≤ 2 ^ 90) :
    Approximates (k + vs.length) (xs.foldl (· + ·) x) (vs.foldl (· + ·) v) := by
  induction h generalizing k x v with
  | nil => exact start
  | @cons y u xs vs head tail ih =>
    obtain ⟨head, least, le_one⟩ := head
    rw [List.length_cons] at few small ⊢
    push_cast at small
    have rest : (0 : Rat) ≤ vs.length := Nat.cast_nonneg _
    have not_tiny : (1 : Rat) / 2 ^ 190 ≤ 1 / 2 ^ 20 := by norm_num
    have sum := start.add (head.mono le) (by omega) (by linarith) (by linarith [start.nonneg])
    rw [Nat.add_comm vs.length, ← Nat.add_assoc] at few ⊢
    exact ih sum (by omega) few (by linarith)

/-- A sum of a few numbers. -/
theorem sum {xs : List Float} {vs : List Rat}
    (h : List.Forall₂ (fun x v => Approximates n x v ∧ 1 / 2 ^ 20 ≤ v ∧ v ≤ 1) xs vs)
    (few : n + vs.length ≤ 64) : Approximates (n + vs.length) (Scale.sum xs) (Scale.sum vs) := by
  have zero : Approximates n Scale.zero Scale.zero := (of_denotes denotes_zero).mono (Nat.zero_le n)
  have short : (vs.length : Rat) ≤ 64 := by exact_mod_cast (by omega : vs.length ≤ 64)
  refine foldl_add h zero le_rfl few ?_
  rw [Scale.zero_eq, zero_add]
  exact short.trans (by norm_num)

/-- How large such a sum is. -/
theorem sum_bounds {xs : List Float} {vs : List Rat}
    (h : List.Forall₂ (fun x v => Approximates n x v ∧ 1 / 2 ^ 20 ≤ v ∧ v ≤ 1) xs vs) :
    vs.length * (1 / 2 ^ 20) ≤ Scale.sum vs ∧ Scale.sum vs ≤ vs.length := by
  rw [Scale.sum_eq]
  induction h with
  | nil => simp
  | @cons y u xs vs head tail ih =>
    obtain ⟨-, least, le_one⟩ := head
    rw [List.length_cons, List.sum_cons]
    push_cast
    exact ⟨by linarith, by linarith⟩

/-! ## Sums with any weight -/

variable {weight : Float}

theorem add_weight (h : Approximates n x v) (few : n ≤ 64) (large : 1 / 2 ^ 20 ≤ v) (small : v ≤ 2 ^ 90)
    (nonneg : 0 ≤ weight) (finite : weight.isFinite = true) :
    Approximates (n + 1) (x + weight) (v + exactValue weight) := by
  have positive : 0 < v := (show (0 : Rat) < 1 / 2 ^ 20 by positivity).trans_le large
  rcases zero_or_denotes nonneg finite with ⟨⟨s, zero⟩, none⟩ | ⟨some, denotes⟩
  · obtain ⟨a, denotes, near⟩ := h
    rw [none, add_zero]
    exact ⟨a, denotes.add_zero (near.pos positive) zero, near.mono positive.le (Nat.le_succ n)⟩
  · have least : (1 : Rat) / 2 ^ 190 ≤ 1 / 2 ^ 20 := by norm_num
    exact h.add ((of_denotes denotes).mono (Nat.zero_le n)) few small (by linarith)

/-- A sum with a number that is very small. -/
theorem add_tiny (h : Approximates n x v) (few : n + 1 ≤ 64) (large : 1 / 2 ^ 20 ≤ v) (small : v ≤ 2 ^ 90)
    (denotes' : Denotes y w) (tiny : w ≤ 1 / 2 ^ 180) (nonneg : 0 ≤ u) (tiny' : u ≤ 1 / 2 ^ 180) :
    Approximates (n + 2) (x + y) (v + u) := by
  have positive := h.nonneg
  obtain ⟨a, denotes, near⟩ := h
  obtain ⟨r, rounds, sum⟩ := denotes.exists_add denotes'
  have close := near.add_small (by omega) large nonneg denotes'.nonneg tiny' tiny
  have double := near.le_double (by omega) positive
  have half := close.half_le few (add_nonneg positive nonneg)
  have least : (1 : Rat) / 2 ^ 200 ≤ 1 / 2 ^ 20 / 2 := by norm_num
  exact ⟨r, sum (denotes'.moderate_add (by linarith) rounds),
    close.trans (.of_rounds rounds (by linarith))⟩

/-- A sum with a part of any weight, however small. -/
theorem add_weighted (h : Approximates n x v) (h' : Approximates k y u) (le : k + 1 ≤ n)
    (few : n + 1 ≤ 64)
    (large : 1 / 2 ^ 20 ≤ v) (small : v ≤ 2 ^ 90) (bounded : u ≤ 9 / 10) (nonneg : 0 ≤ weight)
    (finite : weight.isFinite = true) :
    Approximates (n + 2) (x + y * weight) (v + u * exactValue weight) := by
  have positive : 0 < v := (show (0 : Rat) < 1 / 2 ^ 20 by positivity).trans_le large
  rcases zero_or_denotes nonneg finite with ⟨⟨s, zero⟩, none⟩ | ⟨some, denotes⟩
  · obtain ⟨a, denotes, near⟩ := h
    obtain ⟨b, denotes', -⟩ := h'
    obtain ⟨t, product⟩ := denotes'.exists_mul_zero zero
    rw [none, mul_zero, add_zero]
    exact ⟨a, denotes.add_zero (near.pos positive) product, near.mono positive.le (Nat.le_add_right n 2)⟩
  · have product_nonneg := mul_nonneg h'.nonneg some.le
    by_cases not_tiny : 1 / 2 ^ 190 ≤ u * exactValue weight
    · have product := h'.mul (of_denotes denotes) (by omega) not_tiny (.inl bounded)
      exact (h.add (product.mono le) (by omega) small (by linarith)).mono (Nat.le_succ _)
    · -- the product may have lost all of its bits, but then it does not count
      have part := h'.nonneg
      obtain ⟨b, denotes', near'⟩ := h'
      have double :=
        (near'.mul (.refl (exactValue weight)) part some.le).le_double (by omega) product_nonneg
      have tiny : b * exactValue weight ≤ 2 * (1 / 2 ^ 190) := by linarith
      obtain ⟨r, rounds, product⟩ := (denotes'.mul denotes).exists_denotes
        (moderate_two_pow.of_le (tiny.trans (by norm_num)))
      refine h.add_tiny few large small product ?_ product_nonneg
        ((le_of_not_ge not_tiny).trans (by norm_num))
      by_cases large' : 1 / 2 ^ 200 < r
      · refine (rounds.le_near large').trans ?_
        have least : (1 : Rat) / 2 ^ 180 = 2 ^ 10 / 2 ^ 190 := by norm_num
        rw [least]
        linarith
      · exact (le_of_not_gt large').trans (by norm_num)

/-- What is left of a score that is rounded to six places. -/
theorem exists_roundTo_near (h : Approximates n x v) (few : n ≤ 64) (le_one : v ≤ 1) :
    ∃ w, Denotes (roundTo 6 x) w ∧ |w - v| ≤ 1 / 10 ^ 6 := by
  have nonneg := h.nonneg
  obtain ⟨a, denotes, near⟩ := h
  have close := abs_le.1 (near.abs_sub_le few nonneg le_one)
  obtain ⟨q, u, ⟨multiple, -⟩, rounds, denotes'⟩ := exists_roundTo denotes 6
  have step := abs_le.1 multiple.abs_sub_le
  have rounded : |u - q / 10 ^ 6| ≤ 1 / 10 ^ 12 := by
    rcases Nat.eq_zero_or_pos q with rfl | pos
    · rw [Nat.cast_zero, zero_div] at rounds ⊢
      rw [rounds.unique rounds_zero, sub_zero, abs_zero]
      positivity
    · have one : (1 : Rat) ≤ q := by exact_mod_cast pos
      have least : (1 : Rat) / 2 ^ 200 ≤ q / 10 ^ 6 :=
        (show (1 : Rat) / 2 ^ 200 ≤ 1 / 10 ^ 6 by norm_num).trans
          (div_le_div_of_nonneg_right one (by positivity))
      refine (rounds.near least).trans ?_
      rw [div_le_iff₀ (by positivity)]
      linarith
  have rounded' := abs_le.1 rounded
  refine ⟨u, denotes', abs_le.2 ⟨?_, ?_⟩⟩
  · linarith
  · linarith

end Approximates

end Teller.Number
