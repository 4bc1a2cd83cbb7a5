import Teller.Proofs.Number.Decimals
import Teller.Proofs.Number.Nearest

/-!
# Calculating with doubles

A finite double that is not negative stands for one rational number, and no other double does.
Doubles are in the order of these numbers; products, quotients, differences, sums and the doubles
for decimals stand for the exact results, rounded once, or are infinite if these are beyond all
doubles.

    Denotes                      the number that a double stands for
    Denotes.eq                   no other double stands for it
    Denotes.le_iff               doubles in the order of their numbers
    exists_denotes               positive finite doubles stand for numbers
    IsNearest                    the double that a number is rounded to
    Denotes.mul, Denotes.div, Denotes.exists_abs_sub, Denotes.exists_add
    Denotes.lt_div_of_le         quotients of larger numbers
    Decimal.isNearest            the double for a decimal
    Decimal.toFloat_eq           decimals for one number have one double
-/

namespace Teller.Number

open Float.Model
open Float.Model.UnpackedFloat (Sign)

variable {v w : Rat}

/-! ## Unpacked numbers -/

theorem weight_pos {m : Nat} (e : Int) (pos : 0 < m) : 0 < weight m e := by
  unfold weight
  have : (0 : Rat) < m := Nat.cast_pos.2 pos
  positivity

/-- There is one normal form of a number. -/
theorem IsNormalized.eq_of_weight_eq {m n : Nat} {d e : Int} (hm : IsNormalized m d)
    (hn : IsNormalized n e) (h : weight m d = weight n e) : m = n ∧ d = e := by
  rcases lt_trichotomy d e with before | rfl | after
  · exact absurd h (hm.weight_lt_of_lt hn before).ne
  · exact ⟨le_antisymm (weight_le_weight.1 h.le) (weight_le_weight.1 h.ge), rfl⟩
  · exact absurd h (hn.weight_lt_of_lt hm after).ne'

/-- Some double is no smaller, so rounding does not make the number infinite. -/
def Moderate (v : Rat) : Prop := ∃ n e, IsCanonical n e ∧ v ≤ weight n e

theorem Moderate.of_le (h : Moderate w) (le : v ≤ w) : Moderate v := by
  obtain ⟨n, e, canonical, bound⟩ := h
  exact ⟨n, e, canonical, le.trans bound⟩

/-- Far above all amounts. -/
theorem moderate_two_pow : Moderate (2 ^ 200) := by
  refine ⟨2 ^ 52, 148, ⟨⟨by decide, by decide, .inr le_rfl⟩, by decide⟩, ge_of_eq ?_⟩
  calc weight (2 ^ 52) 148 = weight 1 200 := weight_mul_pow 1 52 148
    _ = 2 ^ 200 := by rw [weight, Nat.cast_one, one_mul, zpow_ofNat]

theorem rounds_zero : Rounds 0 0 := by
  have := Rounds.of_isNormalized (n := 0) (e := -1074) ⟨by decide, le_rfl, .inl rfl⟩
  rwa [weight_zero] at this

namespace Sized

variable {s : Sign} {u u' : UnpackedFloat}

theorem nonneg (h : Sized s v u) : 0 ≤ v := by
  cases h with
  | zero => exact le_rfl
  | finite => exact weight_nonneg _ _

theorem number_unique (h : Sized s v u) (h' : Sized s w u) : v = w := by
  cases h with
  | zero => cases h'; rfl
  | finite => cases h'; rfl

theorem unique (h : Sized s v u) (h' : Sized s v u') : u = u' := by
  cases h with
  | zero =>
    generalize hv : (0 : Rat) = v at h'
    cases h' with
    | zero => rfl
    | finite => exact absurd hv (weight_pos _ ‹_›).ne
  | finite hm =>
    generalize hv : weight _ _ = v at h'
    cases h' with
    | zero => exact absurd hv (weight_pos _ ‹_›).ne'
    | finite hn =>
      obtain ⟨rfl, rfl⟩ := hm.eq_of_weight_eq hn hv
      rfl

theorem not_isNaN (h : Sized s v u) : u.isNaN = false := by
  cases h with
  | zero | finite => rfl

theorem isFinite (h : Sized s v u) : u.isFinite = true := by
  cases h with
  | zero | finite => rfl

theorem not_isInf (h : Sized s v u) : u.isInf = false := by
  cases h with
  | zero | finite => rfl

theorem rounds_self (h : Sized s v u) : Rounds v v := by
  cases h with
  | zero => exact rounds_zero
  | finite normalized => exact .of_isNormalized normalized

/-- Sizes of positive numbers in the order of their places. -/
theorem le_iff (h : Sized .positive v u) (h' : Sized .positive w u') :
    ((place u).compare (place u')).isLE = true ↔ v ≤ w := by
  cases h with
  | zero =>
    cases h' with
    | zero => exact iff_of_true rfl le_rfl
    | finite => exact iff_of_true rfl (weight_nonneg _ _)
  | finite hm =>
    cases h' with
    | zero => exact iff_of_false Bool.false_ne_true (weight_pos _ ‹_›).not_ge
    | finite hn =>
      show (Place.compare ⟨1, _, _⟩ ⟨1, _, _⟩).isLE = true ↔ _
      rw [compare_above_zero, hm.weight_le_weight_iff hn]

/-- A number that is no greater than some double is packed as it is. -/
theorem unpack_pack (h : Sized s v u) (moderate : Moderate v) :
    Sized s v (Float.Model.pack u).unpack := by
  cases h with
  | zero => cases s <;> exact .zero
  | finite normalized =>
    obtain ⟨n, e, greater, le⟩ := moderate
    rw [Number.unpack_pack _ _ (normalized.isCanonical_of_le greater le)]
    exact .finite normalized

/-- A number that is greater than all doubles is packed as an infinity. -/
theorem unpack_pack_or (h : Sized s v u) :
    Moderate v ∧ Sized s v (Float.Model.pack u).unpack ∨
      ¬Moderate v ∧ (Float.Model.pack u).unpack = .infinity s := by
  by_cases moderate : Moderate v
  · exact .inl ⟨moderate, h.unpack_pack moderate⟩
  · refine .inr ⟨moderate, ?_⟩
    cases h with
    | zero => exact absurd (moderate_two_pow.of_le (by positivity)) moderate
    | @finite m e pos normalized =>
      have far : 971 < e := by
        by_contra near
        exact moderate ⟨m, e, ⟨normalized, Int.not_lt.1 near⟩, le_rfl⟩
      have biased : e + Format.binary64.exponentBias + Format.binary64.mantissaBitsWithoutImplicit =
          e + 1075 := by
        show e + 1023 + 52 = e + 1075
        omega
      have packed : UnpackedFloat.pack Format.binary64 (.finite s m e pos) =
          UnpackedFloat.pack Format.binary64 (.infinity s) := by
        unfold UnpackedFloat.pack
        dsimp only
        rw [biased, if_pos (by show 2048 ≤ (e + 1075).toNat + 1; omega)]
      show UnpackedFloat.unpack Format.binary64 (UnpackedFloat.pack Format.binary64 _) = _
      rw [packed]
      cases s <;> rfl

/-- The fields of a number. -/
theorem exists_fields (h : Sized s v u) :
    ∃ m e, Binary.ofUnpacked u = .finite (s == .negative) m e ∧ weight m e = v := by
  cases h with
  | zero => exact ⟨0, -1074, rfl, weight_zero _⟩
  | finite => exact ⟨_, _, rfl, rfl⟩

end Sized

/-- The rounded number is no greater than some double either. -/
theorem Rounds.moderate (h : Rounds v w) (moderate : Moderate v) : Moderate w := by
  obtain ⟨n, e, canonical, le⟩ := moderate
  exact ⟨n, e, canonical, h.le_weight canonical.toIsNormalized le⟩

/-- Far below all amounts, rounding is still exact to `2 ^ -53`. -/
theorem Rounds.near (h : Rounds v w) (not_tiny : 1 / 2 ^ 200 ≤ v) : |w - v| ≤ v / 2 ^ 53 :=
  h.abs_sub_le ((one_div_le_one_div_of_le (by positivity)
    (pow_le_pow_right₀ one_le_two (by decide))).trans not_tiny)

/-- If the rounded number is not tiny, the number itself is not either, so it is no less but for `2
^ -53`. -/
theorem Rounds.le_near (h : Rounds v w) (not_tiny : 1 / 2 ^ 200 < w) : w ≤ v + v / 2 ^ 53 := by
  have normalized : IsNormalized (2 ^ 52) (-252) := ⟨by decide, by decide, .inr le_rfl⟩
  have tiny : weight (2 ^ 52) (-252) = 1 / 2 ^ 200 := by norm_num [weight]
  have large : 1 / 2 ^ 200 ≤ v := by
    by_contra! below
    have bounded := h.le_weight normalized (below.le.trans tiny.ge)
    rw [tiny] at bounded
    exact absurd bounded not_tiny.not_ge
  linarith [(abs_le.1 (h.near large)).2]

/-! ## Doubles and their numbers -/

/-- The double stands for this number, which is not negative. -/
def Denotes (x : Float) (v : Rat) : Prop := Sized .positive v x.toModel.unpack

/-- The bits of a double from its fields. -/
theorem eq_of_ofBits {a b : Nat} {negative : Bool} {m : Nat} {e : Int} (ha : a < 2 ^ 64)
    (hb : b < 2 ^ 64) (h : Binary.ofBits a = .finite negative m e)
    (h' : Binary.ofBits b = .finite negative m e) : a = b := by
  unfold Binary.ofBits Binary.leadingBit at h h'
  dsimp only at h h'
  have sign : a / 4503599627370496 / 2048 % 2 = b / 4503599627370496 / 2048 % 2 := by
    have signs : (a / 4503599627370496 / 2048 % 2 == 1) = (b / 4503599627370496 / 2048 % 2 == 1) := by
      grind
    rw [Bool.eq_iff_iff, beq_iff_eq, beq_iff_eq] at signs
    omega
  have rest : a / 4503599627370496 % 2048 = b / 4503599627370496 % 2048 ∧
      a % 4503599627370496 = b % 4503599627370496 := by
    grind
  omega

/-- A double with these fields. -/
theorem denotes_of_fields {x : Float} {m : Nat} {e : Int} (h : Binary.ofFloat x = .finite false m e)
    (pos : 0 < m) : Denotes x (weight m e) := by
  have canonical : IsCanonical m e := isCanonical_of_ofBits h
  rw [ofFloat_eq_ofUnpacked] at h
  unfold Denotes
  rw [eq_finite_of_ofUnpacked (s := .positive) h pos]
  exact .finite canonical.toIsNormalized

namespace Denotes

variable {x y : Float}

theorem nonneg (h : Denotes x v) : 0 ≤ v := Sized.nonneg h

theorem number_unique (h : Denotes x v) (h' : Denotes x w) : v = w := Sized.number_unique h h'

theorem not_isNaN (h : Denotes x v) : x.isNaN = false := Sized.not_isNaN h

theorem isFinite (h : Denotes x v) : x.isFinite = true := Sized.isFinite h

theorem not_isInf (h : Denotes x v) : x.isInf = false := Sized.not_isInf h

theorem moderate (h : Denotes x v) : Moderate v := by
  unfold Denotes at h
  have canonical {s m e} {pos : 0 < m} (hu : x.toModel.unpack = .finite s m e pos) :=
    isCanonical_of_unpack hu
  generalize x.toModel.unpack = u at *
  cases h with
  | zero => exact moderate_two_pow.of_le (by positivity)
  | finite => exact ⟨_, _, canonical rfl, le_rfl⟩

/-- A double is rounded to itself. -/
theorem rounds_self (h : Denotes x v) : Rounds v v := Sized.rounds_self h

/-- The fields of a double. -/
theorem exists_fields (h : Denotes x v) :
    ∃ m e, Binary.ofFloat x = .finite false m e ∧ weight m e = v := by
  rw [ofFloat_eq_ofUnpacked]
  exact Sized.exists_fields h

/-- No other double stands for the same number. -/
theorem eq (h : Denotes x v) (h' : Denotes y v) : x = y := by
  obtain ⟨m, e, fields, value⟩ := h.exists_fields
  have same : Binary.ofFloat x = Binary.ofFloat y := by
    rw [ofFloat_eq_ofUnpacked, ofFloat_eq_ofUnpacked, Sized.unique h h']
  have bits := eq_of_ofBits x.toModel.toBits.toNat_lt y.toModel.toBits.toNat_lt fields
    (same.symm.trans fields)
  obtain ⟨⟨a, valid⟩⟩ := x
  obtain ⟨⟨b, valid'⟩⟩ := y
  cases UInt64.toNat_inj.1 bits
  rfl

/-- Doubles are in the order of their numbers. -/
theorem le_iff (h : Denotes x v) (h' : Denotes y w) : x ≤ y ↔ v ≤ w := by
  rw [Number.le_iff, order, Sized.le_iff h h']
  simp only [h.not_isNaN, h'.not_isNaN, true_and]

/-- Equal doubles stand for equal numbers. -/
theorem eq_of_beq (h : Denotes x v) (h' : Denotes y w) (same : (x == y) = true) : v = w := by
  have compared : x.toModel.unpack.compare y.toModel.unpack = some (order x y) :=
    compare_eq_some h.not_isNaN h'.not_isNaN
  rw [beq_iff_compare, compared, Option.some.injEq] at same
  have swapped : order y x = .eq := by rw [← order_swap, same]; rfl
  refine le_antisymm ((h.le_iff h').1 ?_) ((h'.le_iff h).1 ?_)
  · rw [Number.le_iff, same]
    exact ⟨h.not_isNaN, h'.not_isNaN, rfl⟩
  · rw [Number.le_iff, swapped]
    exact ⟨h'.not_isNaN, h.not_isNaN, rfl⟩

theorem lt_iff (h : Denotes x v) (h' : Denotes y w) : x < y ↔ v < w := by
  rw [Number.lt_iff h.not_isNaN h'.not_isNaN, ← not_iff_not, ← isLE_order_iff, order,
    Sized.le_iff h' h, not_lt]

end Denotes

theorem denotes_zero : Denotes 0 0 := .zero

/-- Positive finite doubles stand for numbers. -/
theorem exists_denotes {x : Float} (pos : 0 < x) (finite : x.isFinite = true) :
    ∃ v, 0 < v ∧ Denotes x v := by
  unfold Denotes
  have h := (lt_iff_compare 0 x).1 pos
  replace finite : x.toModel.unpack.isFinite = true := finite
  have canonical {s m e} {pos : 0 < m} (hu : x.toModel.unpack = .finite s m e pos) :=
    isCanonical_of_unpack hu
  generalize x.toModel.unpack = u at *
  cases u with
  | notANumber | infinity => cases finite
  | zero => cases h
  | finite s m e positive =>
    cases s with
    | negative => cases h
    | positive => exact ⟨_, weight_pos e positive, .finite (canonical rfl).toIsNormalized⟩

/-- Positive doubles without a number are infinite. -/
theorem unpack_of_pos {x : Float} (pos : 0 < x) (infinite : x.isFinite = false) :
    x.toModel.unpack = .infinity .positive := by
  have h := (lt_iff_compare 0 x).1 pos
  replace infinite : x.toModel.unpack.isFinite = false := infinite
  generalize x.toModel.unpack = u at *
  cases u with
  | notANumber => cases h
  | zero | finite => cases infinite
  | infinity s =>
    cases s with
    | negative => cases h
    | positive => rfl

/-- A double without a number that is below another one is negative infinity. -/
theorem unpack_of_lt {x y : Float} (less : x < y) (infinite : x.isFinite = false) :
    x.toModel.unpack = .infinity .negative := by
  have h := (lt_iff_compare x y).1 less
  replace infinite : x.toModel.unpack.isFinite = false := infinite
  generalize x.toModel.unpack = u at *
  cases u with
  | notANumber => cases h
  | zero | finite => cases infinite
  | infinity s =>
    cases s with
    | negative => rfl
    | positive =>
      generalize y.toModel.unpack = v at h
      cases v with
      | notANumber | zero | finite => cases h
      | infinity t => cases t <;> cases h

/-! ## Operations -/

theorem unpack_add (x y : Float) : (x + y).toModel.unpack = (Float.Model.pack
    (UnpackedFloat.add Format.binary64 x.toModel.unpack y.toModel.unpack)).unpack := rfl

theorem unpack_sub (x y : Float) : (x - y).toModel.unpack = (Float.Model.pack
    (UnpackedFloat.sub Format.binary64 x.toModel.unpack y.toModel.unpack)).unpack := rfl

theorem unpack_mul (x y : Float) : (x * y).toModel.unpack = (Float.Model.pack
    (UnpackedFloat.mul Format.binary64 x.toModel.unpack y.toModel.unpack)).unpack := rfl

theorem unpack_div (x y : Float) : (x / y).toModel.unpack = (Float.Model.pack
    (UnpackedFloat.div Format.binary64 x.toModel.unpack y.toModel.unpack)).unpack := rfl

theorem unpack_pack_infinity (s : Sign) : (Float.Model.pack (.infinity s)).unpack = .infinity s := by
  cases s <;> rfl

/-- A finite double less an infinity is the other infinity. -/
theorem sub_infinite {x y : Float} {s : Sign} (finite : x.isFinite = true)
    (hy : y.toModel.unpack = .infinity s) :
    (x - y).toModel.unpack = .infinity (-s) := by
  replace finite : x.toModel.unpack.isFinite = true := finite
  rw [unpack_sub, hy]
  generalize x.toModel.unpack = a at finite
  cases a with
  | notANumber | infinity t => cases finite
  | zero t | finite t => exact unpack_pack_infinity (-s)

/-- An infinity stays one when it is divided by a negative double, with its sign changed. -/
theorem infinite_div_of_neg {x y : Float} (hx : x.toModel.unpack = .infinity .positive) (neg : y < 0)
    (finite : y.isFinite = true) : (x / y).toModel.unpack = .infinity .negative := by
  have h := (lt_iff_compare y 0).1 neg
  replace finite : y.toModel.unpack.isFinite = true := finite
  rw [unpack_div, hx]
  generalize y.toModel.unpack = v at *
  cases v with
  | notANumber | infinity t => cases finite
  | zero t => cases t <;> cases h
  | finite t n e pos =>
    cases t with
    | positive => cases h
    | negative => exact unpack_pack_infinity .negative

/-- What is not below zero and not zero is positive. -/
theorem pos_of_nonneg {x : Float} (nonneg : 0 ≤ x) (nonzero : (x == 0) = false) : 0 < x := by
  obtain ⟨number, number', above⟩ := (le_iff 0 x).1 nonneg
  rw [lt_iff number number']
  have apart : ¬order 0 x = .eq := by
    intro same
    have equal : (x == 0) = true := by
      have compared : x.toModel.unpack.compare (0 : Float).toModel.unpack = some (order x 0) :=
        compare_eq_some number' number
      rw [beq_iff_compare, compared, ← order_swap, same]
      rfl
    rw [nonzero] at equal
    cases equal
  cases h : order 0 x with
  | lt => rfl
  | eq => exact absurd h apart
  | gt =>
    rw [h] at above
    cases above

/-! ## Products, quotients, differences and sums -/

/-- The double that a number is rounded to, which is infinite if the number is beyond all doubles.
-/
inductive IsNearest (x : Float) (v : Rat) : Prop
  | finite {w : Rat} (rounds : Rounds v w) (denotes : Denotes x w)
  | infinite (unpack : x.toModel.unpack = .infinity .positive) (large : ¬Moderate v)

namespace IsNearest

variable {x : Float}

/-- A result that is packed. -/
theorem of_sized {u : UnpackedFloat} (packed : x.toModel.unpack = (Float.Model.pack u).unpack)
    (rounds : Rounds v w) (sized : Sized .positive w u) : IsNearest x v := by
  rcases sized.unpack_pack_or with ⟨-, finite⟩ | ⟨large, infinite⟩
  · refine .finite rounds ?_
    unfold Denotes
    rw [packed]
    exact finite
  · exact .infinite (packed.trans infinite) fun moderate => large (rounds.moderate moderate)

theorem exists_denotes (h : IsNearest x v) (moderate : Moderate v) : ∃ w, Rounds v w ∧ Denotes x w := by
  cases h with
  | finite rounds denotes => exact ⟨_, rounds, denotes⟩
  | infinite _ large => exact absurd moderate large

theorem not_isNaN (h : IsNearest x v) : x.isNaN = false := by
  cases h with
  | finite _ denotes => exact denotes.not_isNaN
  | infinite unpack => exact not_isNaN_of_unpack unpack rfl

/-- A result is not below zero. -/
theorem not_neg (h : IsNearest x v) : ¬x < 0 := by
  cases h with
  | finite _ denotes =>
    rw [denotes.lt_iff denotes_zero]
    exact denotes.nonneg.not_gt
  | infinite unpack =>
    rw [lt_iff_compare, unpack]
    exact nofun

/-- A finite result stands for a number. -/
theorem exists_of_isFinite (h : IsNearest x v) (finite : x.isFinite = true) :
    ∃ w, Rounds v w ∧ Denotes x w := by
  cases h with
  | finite rounds denotes => exact ⟨_, rounds, denotes⟩
  | infinite unpack =>
    replace finite : x.toModel.unpack.isFinite = true := finite
    rw [unpack] at finite
    cases finite

end IsNearest

/-- A product of mantissas has all bits of a mantissa, or is very small. -/
theorem fits_mul {m k : Nat} {d c : Int} (pos : 0 < m) (pos' : 0 < k) (hm : IsNormalized m d)
    (hk : IsNormalized k c) : Fits (m * k) (d + c) := by
  rcases hm.full with rfl | full
  · rcases hk.full with rfl | full'
    · exact .inl (by decide)
    · exact .inr (full'.trans (Nat.le_mul_of_pos_left k pos))
  · exact .inr (full.trans (Nat.le_mul_of_pos_right m pos'))

namespace Denotes

variable {x y : Float}

/-- A product is the exact one, rounded. -/
theorem mul (h : Denotes x v) (h' : Denotes y w) : IsNearest (x * y) (v * w) := by
  have product : ∃ p, Rounds (v * w) p ∧ Sized .positive p
      (UnpackedFloat.mul Format.binary64 x.toModel.unpack y.toModel.unpack) := by
    unfold Denotes at h h'
    generalize x.toModel.unpack = a at h
    generalize y.toModel.unpack = b at h'
    cases h with
    | zero =>
      rw [zero_mul]
      cases h' with
      | zero | finite => exact ⟨0, rounds_zero, .zero⟩
    | finite hm =>
      cases h' with
      | zero =>
        rw [mul_zero]
        exact ⟨0, rounds_zero, .zero⟩
      | finite hk => exact exists_rounds_mul .positive _ _ (fits_mul ‹_› ‹_› hm hk)
  obtain ⟨p, rounds, sized⟩ := product
  exact .of_sized rfl rounds sized

/-- An infinity is not made finite by a factor. -/
theorem infinite_mul (hx : x.toModel.unpack = .infinity .positive) (h : Denotes y w) (pos : 0 < w) :
    (x * y).toModel.unpack = .infinity .positive := by
  unfold Denotes at h
  rw [unpack_mul, hx]
  generalize y.toModel.unpack = b at h
  cases h with
  | zero => exact absurd rfl pos.ne
  | finite => exact unpack_pack_infinity .positive

/-- Nor is it by a divisor. -/
theorem infinite_div (hx : x.toModel.unpack = .infinity .positive) (h : Denotes y w) (pos : 0 < w) :
    (x / y).toModel.unpack = .infinity .positive := by
  unfold Denotes at h
  rw [unpack_div, hx]
  generalize y.toModel.unpack = b at h
  cases h with
  | zero => exact absurd rfl pos.ne
  | finite => exact unpack_pack_infinity .positive

/-- An infinity is above all numbers. -/
theorem lt_infinite (h : Denotes x v) (hy : y.toModel.unpack = .infinity .positive) : x < y := by
  rw [lt_iff_compare, hy]
  unfold Denotes at h
  generalize x.toModel.unpack = a at h
  cases h with
  | zero | finite => rfl

/-- A factor of at least one lowers no number. -/
theorem le_mul (h : Denotes x v) (h' : Denotes y w) (one_le : 1 ≤ w) : x ≤ x * y := by
  cases h.mul h' with
  | finite rounds denotes =>
    have grown : v ≤ v * w := le_mul_of_one_le_right h.nonneg one_le
    exact (h.le_iff denotes).2 (h.rounds_self.mono rounds grown)
  | infinite unpack => exact le_of_lt (h.lt_infinite unpack)

/-- A quotient is the exact one, rounded. -/
theorem div (h : Denotes x v) (h' : Denotes y w) (pos : 0 < w) : IsNearest (x / y) (v / w) := by
  have quotient : ∃ q, Rounds (v / w) q ∧ Sized .positive q
      (UnpackedFloat.div Format.binary64 x.toModel.unpack y.toModel.unpack) := by
    unfold Denotes at h h'
    generalize x.toModel.unpack = a at h
    generalize y.toModel.unpack = b at h'
    cases h' with
    | zero => exact absurd rfl pos.ne
    | finite hk =>
      cases h with
      | zero =>
        rw [zero_div]
        exact ⟨0, rounds_zero, .zero⟩
      | finite hm => exact exists_rounds_div .positive _ _ _ _
  obtain ⟨q, rounds, sized⟩ := quotient
  exact .of_sized rfl rounds sized

theorem abs_unpack (u : UnpackedFloat) (h : Sized .positive v u.abs) (moderate : Moderate v) :
    Sized .positive v (Float.Model.pack (Float.Model.pack u).unpack.abs).unpack := by
  have packed : (Float.Model.pack u).unpack.abs = u.abs := by
    cases u with
    | notANumber | infinity => cases h
    | zero t => cases t <;> rfl
    | finite t m e pos =>
      have sized : Sized t v (.finite t m e pos) := by
        cases h
        exact .finite ‹_›
      exact congrArg UnpackedFloat.abs ((sized.unpack_pack moderate).unique sized)
  rw [packed]
  exact h.unpack_pack moderate

/-- The size of a difference is the exact one, rounded. -/
theorem exists_abs_sub (h : Denotes x v) (h' : Denotes y w) :
    ∃ d, Rounds |v - w| d ∧ Denotes (x - y).abs d := by
  have moderate : Moderate |v - w| := by
    rcases le_total v w with le | le
    · rw [abs_of_nonpos (sub_nonpos.2 le), neg_sub]
      exact h'.moderate.of_le (sub_le_self w h.nonneg)
    · rw [abs_of_nonneg (sub_nonneg.2 le)]
      exact h.moderate.of_le (sub_le_self v h'.nonneg)
  have difference : ∃ d, Rounds |v - w| d ∧ Sized .positive d
      (UnpackedFloat.sub Format.binary64 x.toModel.unpack y.toModel.unpack).abs := by
    unfold Denotes at h h'
    generalize x.toModel.unpack = a at h
    generalize y.toModel.unpack = b at h'
    cases h with
    | zero =>
      cases h' with
      | zero =>
        rw [sub_zero, abs_zero]
        exact ⟨0, rounds_zero, .zero⟩
      | finite hk =>
        rw [zero_sub, abs_neg, abs_of_nonneg (weight_nonneg _ _)]
        exact ⟨_, .of_isNormalized hk, .finite hk⟩
    | finite hm =>
      cases h' with
      | zero =>
        rw [sub_zero, abs_of_nonneg (weight_nonneg _ _)]
        exact ⟨_, .of_isNormalized hm, .finite hm⟩
      | finite hk => exact exists_rounds_sub _ _ _ _
  obtain ⟨d, rounds, sized⟩ := difference
  exact ⟨d, rounds, abs_unpack _ sized (rounds.moderate moderate)⟩

/-- A sum is the exact one, rounded, if that is not beyond all doubles. -/
theorem exists_add (h : Denotes x v) (h' : Denotes y w) :
    ∃ r, Rounds (v + w) r ∧ (Moderate r → Denotes (x + y) r) := by
  have sum : ∃ r, Rounds (v + w) r ∧ Sized .positive r
      (UnpackedFloat.add Format.binary64 x.toModel.unpack y.toModel.unpack) := by
    have rounds := h.rounds_self
    have rounds' := h'.rounds_self
    unfold Denotes at h h'
    generalize x.toModel.unpack = a at h
    generalize y.toModel.unpack = b at h'
    cases h with
    | zero =>
      rw [zero_add]
      cases h' with
      | zero => exact ⟨0, rounds_zero, .zero⟩
      | finite hk => exact ⟨_, rounds', .finite hk⟩
    | finite hm =>
      cases h' with
      | zero =>
        rw [add_zero]
        exact ⟨_, rounds, .finite hm⟩
      | finite hk => exact exists_rounds_add _ _ _ _
  obtain ⟨r, rounds, sized⟩ := sum
  exact ⟨r, rounds, fun moderate => sized.unpack_pack moderate⟩

theorem abs (h : Denotes x v) : Denotes x.abs v := (Sized.abs h).unpack_pack h.moderate

/-- A positive number is no part of an infinite one. -/
theorem not_lt_div_infinite {t : Float} (h : Denotes t v) (pos : 0 < x)
    (hy : y.toModel.unpack = .infinity .positive) :
    ¬t < x / y := by
  cases finite : x.isFinite with
  | true =>
    obtain ⟨w, positive, denotes⟩ := exists_denotes pos finite
    have quotient : UnpackedFloat.div Format.binary64 x.toModel.unpack y.toModel.unpack =
        .zero .positive := by
      unfold Denotes at denotes
      rw [hy]
      generalize x.toModel.unpack = a at denotes
      cases denotes with
      | zero | finite => rfl
    have none : Denotes (x / y) 0 := by
      show Sized .positive 0 (x / y).toModel.unpack
      rw [unpack_div, quotient]
      exact .zero
    rw [h.lt_iff none]
    exact h.nonneg.not_gt
  | false =>
    have nan : (x / y).isNaN = true := by
      show (x / y).toModel.unpack.isNaN = true
      rw [unpack_div, unpack_of_pos pos finite, hy]
      rfl
    intro above
    rw [(not_isNaN_of_lt above).2] at nan
    cases nan

/-- A larger number is a larger part of a positive one, if the part exceeds a bound that is not very
large. -/
theorem lt_div_of_le {t z : Float} (h : Denotes t v) (small : v < 2 ^ 200) (pos : 0 < x)
    (le : x ≤ z) (pos' : 0 < y) (above : t < x / y) : t < z / y := by
  have larger := lt_of_lt_of_le pos le
  cases finite : y.isFinite with
  | false => exact absurd above (not_lt_div_infinite h pos (unpack_of_pos pos' finite))
  | true =>
    obtain ⟨w, positive, denotes⟩ := exists_denotes pos' finite
    cases finite' : z.isFinite with
    | false => exact h.lt_infinite (infinite_div (unpack_of_pos larger finite') denotes positive)
    | true =>
      have nonneg : 0 ≤ x := le_of_not_lt denotes_zero.not_isNaN (not_isNaN_of_lt pos).2
        fun neg => absurd (lt_trans pos neg) (by decide +kernel)
      obtain ⟨u, -, numerator⟩ := exists_denotes pos
        (isFinite_of_le_of_le (x := 0) (by decide +kernel) finite' nonneg le)
      obtain ⟨u', -, numerator'⟩ := exists_denotes larger finite'
      have parts : u / w ≤ u' / w :=
        div_le_div_of_nonneg_right ((numerator.le_iff numerator').1 le) positive.le
      cases numerator'.div denotes positive with
      | infinite unpack => exact h.lt_infinite unpack
      | finite rounds' part' =>
        rw [h.lt_iff part']
        cases numerator.div denotes positive with
        | finite rounds part => exact ((h.lt_iff part).1 above).trans_le (rounds.mono rounds' parts)
        | infinite _ large =>
          have beyond : 2 ^ 200 ≤ u' / w := by
            by_contra! below
            exact large (moderate_two_pow.of_le (parts.trans below.le))
          have exact_power : Rounds (2 ^ 200) (2 ^ 200) := by
            have power : weight (2 ^ 52) 148 = 2 ^ 200 := by norm_num [weight]
            rw [← power]
            exact .of_isNormalized ⟨by decide, by decide, .inr le_rfl⟩
          exact small.trans_le (exact_power.mono rounds' beyond)

end Denotes

/-! ## Decimals -/

/-- A power of ten that is a double. -/
theorem denotes_of_isPowerOfTen {k : Nat} {x : Float} (h : isPowerOfTen k x = true) :
    Denotes x (10 ^ k) := by
  obtain ⟨m, e, fields, full, value⟩ := fields_of_isPowerOfTen h
  rw [← value]
  exact denotes_of_fields fields (by omega)

theorem denotes_one : Denotes 1 1 := by
  have := denotes_of_isPowerOfTen (k := 0) (x := 1) (by decide +kernel)
  rwa [pow_zero] at this

/-- A whole number that a mantissa has room for. -/
theorem denotes_toUInt64 {n : Nat} (pos : 0 < n) (small : n < 2 ^ 53) :
    Denotes n.toUInt64.toFloat n := by
  have canonical := isCanonical_shiftLeft pos small
  have value : weight (n <<< (52 - n.log2)) (0 - (52 - n.log2 : Nat)) = n := by
    rw [Nat.shiftLeft_eq, weight_mul_pow, Int.sub_add_cancel, weight_natCast]
  obtain ⟨w, rounds, sized⟩ := exists_rounds_round .positive 0 pos
  rw [weight_natCast, ← value] at rounds
  rw [rounds.unique (.of_isNormalized canonical.toIsNormalized), value] at sized
  have moderate : Moderate n := ⟨_, _, canonical, value.ge⟩
  have same : UnpackedFloat.ofNat Format.binary64 n.toUInt64.toNat =
      UnpackedFloat.round Format.binary64 .positive n 0 := by
    rw [Nat.toUInt64_eq, UInt64.toNat_ofNat_of_lt' (small.trans (by decide))]
    unfold UnpackedFloat.ofNat UnpackedFloat.ofInt UnpackedFloat.normalize
    rw [Int.compare_eq_gt.2 (Int.natCast_pos.2 pos)]
    rfl
  show Sized .positive n (Float.Model.pack
    (UnpackedFloat.ofNat Format.binary64 n.toUInt64.toNat)).unpack
  rw [same]
  exact sized.unpack_pack moderate

/-- Less than half of the least double is rounded to nothing. -/
theorem rounds_tiny (nonneg : 0 ≤ v) (tiny : v < weight 1 (-1075)) : Rounds v 0 := by
  have := Rounds.down (v := v) (m := 0) (e := -1074) ⟨by decide, le_rfl, .inl rfl⟩
    (by rwa [weight_zero]) tiny.le fun half => absurd half tiny.ne
  rwa [weight_zero] at this

/-- Powers of ten below one are below the powers of two with the same exponent. -/
theorem ten_zpow_le {k : Int} (negative : k ≤ 0) : (10 : Rat) ^ k ≤ 2 ^ k := by
  obtain ⟨n, hn⟩ := Int.eq_ofNat_of_zero_le (Int.neg_nonneg_of_nonpos negative)
  rw [show k = -(n : Int) by omega, zpow_neg, zpow_neg, zpow_natCast, zpow_natCast]
  exact inv_anti₀ (by positivity) (pow_le_pow_left₀ (by norm_num) (by norm_num) n)

/-- Decimals that are rounded once. -/
theorem exists_rounds_scientific {digits : Nat} (pos : 0 < digits) {exponent : Int}
    (moderate : exponent ≤ 2048) : ∃ w, Rounds (digits * (10 : Rat) ^ exponent) w ∧
      Sized .positive w (UnpackedFloat.ofScientific Format.binary64 digits exponent) := by
  have greatest : (2 : Int) ^ Format.binary64.exponentBits = 2048 := rfl
  unfold UnpackedFloat.ofScientific
  rw [dif_neg pos.ne', greatest, if_neg (Int.not_lt.2 moderate)]
  by_cases tiny : exponent < -(2048 + (digits.log2 : Int))
  · rw [if_pos tiny]
    have log : (digits : Rat) < 2 ^ ((digits.log2 : Int) + 1) := by
      exact_mod_cast Nat.lt_log2_self
    have small : digits * (10 : Rat) ^ exponent < weight 1 (-1075) :=
      calc digits * (10 : Rat) ^ exponent
        _ ≤ digits * 2 ^ exponent :=
          mul_le_mul_of_nonneg_left (ten_zpow_le (by omega)) (Nat.cast_nonneg _)
        _ < 2 ^ ((digits.log2 : Int) + 1) * 2 ^ exponent :=
          mul_lt_mul_of_pos_right log (by positivity)
        _ = 2 ^ ((digits.log2 : Int) + 1 + exponent) := (zpow_add₀ (by norm_num) _ _).symm
        _ ≤ 2 ^ (-1075 : Int) := zpow_le_zpow_right₀ (by norm_num) (by omega)
        _ = weight 1 (-1075) := by rw [weight, Nat.cast_one, one_mul]
    exact ⟨0, rounds_tiny (by positivity) small, .zero⟩
  · rw [if_neg tiny]
    by_cases whole : 0 ≤ exponent
    · rw [if_pos whole]
      obtain ⟨k, rfl⟩ := Int.eq_ofNat_of_zero_le whole
      have shifted : weight (digits <<< 53) (-53) = digits := by
        rw [Nat.shiftLeft_eq, weight_mul_pow]
        exact weight_natCast digits
      have power : weight (10 ^ k) 0 = (10 : Rat) ^ (k : Int) := by
        rw [weight_natCast, Nat.cast_pow, zpow_natCast]
        rfl
      have full : 2 ^ 52 ≤ digits <<< 53 * 10 ^ k := by
        have := Nat.pow_pos (n := k) (show 0 < 10 by decide)
        have := Nat.le_mul_of_pos_right (digits <<< 53) this
        rw [Nat.shiftLeft_eq] at *
        omega
      rw [← shifted, ← power]
      exact exists_rounds_mul .positive _ _ (.inr full)
    · rw [if_neg whole]
      obtain ⟨k, hk⟩ := Int.eq_ofNat_of_zero_le (show 0 ≤ -exponent by omega)
      have quotient : digits * (10 : Rat) ^ exponent = weight digits 0 / weight (10 ^ k) 0 := by
        rw [weight_natCast, weight_natCast, Nat.cast_pow, ← neg_neg exponent, hk, zpow_neg,
          zpow_natCast, ← div_eq_mul_inv]
        rfl
      have power : (-exponent).toNat = k := by omega
      rw [quotient, ← power]
      exact exists_rounds_div .positive _ _ _ _

/-- The product or the quotient of a short whole number and a power of ten. -/
theorem isNearest_short {digits : Nat} (pos : 0 < digits) (short : digits < 2 ^ 53)
    {negative : Bool} {k : Nat} (listed : k < Float.exactlyRepresentablePowersOfTen.size) :
    IsNearest (if negative then digits.toUInt64.toFloat / Float.exactlyRepresentablePowersOfTen[k]
      else digits.toUInt64.toFloat * Float.exactlyRepresentablePowersOfTen[k])
      (digits * (10 : Rat) ^ (signed negative k)) := by
  have whole := denotes_toUInt64 pos short
  have power := denotes_of_isPowerOfTen (isPowerOfTen_table k listed)
  cases negative with
  | true =>
    rw [if_pos rfl, signed, if_pos rfl, zpow_neg, zpow_natCast, ← div_eq_mul_inv]
    exact whole.div power (by positivity)
  | false =>
    rw [if_neg Bool.false_ne_true, signed, if_neg Bool.false_ne_true, zpow_natCast]
    exact whole.mul power

/-- Decimals that are not far beyond all doubles. -/
theorem isNearest_ofScientific {digits : Nat} (pos : 0 < digits) {negative : Bool} {k : Nat}
    (exponent : signed negative k ≤ 2048) :
    IsNearest (Float.ofScientific digits negative k) (digits * (10 : Rat) ^ (signed negative k)) := by
  unfold Float.ofScientific
  split
  · next short => exact isNearest_short pos short.1 (Nat.lt_succ_of_le short.2)
  · have exponent_eq :
        (if negative = true then Int.negOfNat k else Int.ofNat k) = signed negative k := by
      cases negative with
      | true => exact Int.negOfNat_eq
      | false => rfl
    dsimp only
    rw [exponent_eq]
    obtain ⟨w, rounds, sized⟩ := exists_rounds_scientific pos exponent
    exact .of_sized rfl rounds sized

/-- A decimal with its leading digit far behind the point is rounded to nothing. -/
theorem Decimal.rounds_zero {d : Decimal}
    (small : d.digits = 0 ∨ (digitCount d.digits : Int) + d.exponent < -330) : Rounds d.value 0 := by
  rcases small with zero | far
  · rw [Decimal.value, zero, Nat.cast_zero, zero_mul]
    exact Number.rounds_zero
  · refine rounds_tiny (by unfold Decimal.value; positivity) ?_
    have digits : (d.digits : Rat) < 10 ^ (digitCount d.digits : Int) := by
      rw [zpow_natCast]
      exact_mod_cast (Nat.length_toDigits_le_iff (by decide) (digitCount_pos _)).1 le_rfl
    calc d.value
      _ < 10 ^ (digitCount d.digits : Int) * 10 ^ d.exponent :=
        mul_lt_mul_of_pos_right digits (by positivity)
      _ = 10 ^ ((digitCount d.digits : Int) + d.exponent) := (zpow_add₀ (by norm_num) _ _).symm
      _ ≤ 10 ^ (-331 : Int) := zpow_le_zpow_right₀ (by norm_num) (by omega)
      _ < 2 ^ (-1075 : Int) := by
        rw [zpow_neg, zpow_neg, zpow_ofNat, zpow_ofNat]
        exact inv_strictAnti₀ (by positivity)
          (by exact_mod_cast (by decide +kernel : 2 ^ 1075 < 10 ^ 331))
      _ = weight 1 (-1075) := by rw [weight, Nat.cast_one, one_mul]

/-- The double for a decimal. -/
theorem Decimal.isNearest (d : Decimal) : IsNearest d.toFloat d.value := by
  unfold Decimal.toFloat
  dsimp only
  split
  · next small => exact .finite (Decimal.rounds_zero (by simpa using small)) denotes_zero
  · next large =>
    obtain ⟨nonzero, -⟩ := Bool.or_eq_false_iff.1 (eq_false_of_ne_true large)
    have pos : 0 < d.digits := Nat.pos_of_ne_zero (of_decide_eq_false nonzero)
    split
    · next far =>
      refine .infinite rfl ?_
      rintro ⟨n, e, canonical, le⟩
      exact absurd ((Decimal.pow_le_value pos far).trans le) canonical.weight_lt.not_ge
    · next near =>
      have exponent_eq : signed (decide (d.exponent < 0)) d.exponent.natAbs = d.exponent := by
        unfold signed
        simp only [decide_eq_true_eq]
        omega
      have exponent : signed (decide (d.exponent < 0)) d.exponent.natAbs ≤ 2048 := by omega
      have nearest := isNearest_ofScientific pos exponent
      rw [exponent_eq] at nearest
      exact nearest

/-- Decimals for one number have one double. -/
theorem Decimal.toFloat_eq {c d : Decimal} (same : c.value = d.value) (moderate : Moderate d.value) :
    c.toFloat = d.toFloat := by
  obtain ⟨w, rounds, denotes⟩ := d.isNearest.exists_denotes moderate
  obtain ⟨u, rounds', denotes'⟩ := c.isNearest.exists_denotes (moderate.of_le same.le)
  rw [same] at rounds'
  rw [rounds'.unique rounds] at denotes'
  exact denotes'.eq denotes

end Teller.Number
