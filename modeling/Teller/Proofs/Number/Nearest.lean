import Mathlib.Algebra.Order.AbsoluteValue.Basic
import Mathlib.Algebra.Ring.Parity
import Mathlib.Tactic.Ring
import Teller.Proofs.Number.Rounding

/-!
# The nearest double

A positive number lies between two neighbours of the same exponent. It is rounded to the nearer one,
and from half way to the one with the even mantissa. The mantissa that a calculation arrives at and
the two bits that it keeps of the rest say on which side of half way the exact number lies, so every
result is the exact one, rounded once.

    Rounds                       the number that another one is rounded to
    Rounds.mono                  rounding keeps the order
    Rounds.unique                a number is rounded to one number only
    Rounds.nearest               to the nearest number in normal form
    Rounds.abs_sub_le            rounding changes a number by `2 ^ -53` of it at most
    Brackets.rounds              the rounded mantissa
    exists_rounds                a result with its extra bits, rounded
    exists_rounds_mul, exists_rounds_div, exists_rounds_sub, exists_rounds_add
-/

namespace Teller.Number

open Float.Model
open Float.Model.UnpackedFloat (Sign Accuracy ExtendedMantissa accuracyOfFraction shiftToTargetExponent
  roundWithAccuracy)

/-! ## Half way -/

/-- The number half way from `m · 2 ^ e` to `(m + 1) · 2 ^ e`. -/
def halfway (m : Nat) (e : Int) : Rat := weight (2 * m + 1) (e - 1)

theorem weight_two_mul (m : Nat) (e : Int) : weight (2 * m) (e - 1) = weight m e := by
  have := weight_mul_pow m 1 (e - 1)
  rw [Nat.cast_one, Int.sub_add_cancel] at this
  rw [Nat.mul_comm]
  exact this

theorem weight_lt_halfway (m : Nat) (e : Int) : weight m e < halfway m e := by
  rw [← weight_two_mul, halfway, weight_lt_weight]
  omega

theorem halfway_lt_weight (m : Nat) (e : Int) : halfway m e < weight (m + 1) e := by
  rw [← weight_two_mul, halfway, weight_lt_weight]
  omega

theorem halfway_eq_add (m : Nat) (e : Int) : halfway m e = weight m e + weight 1 (e - 1) := by
  rw [← weight_two_mul, halfway]
  unfold weight
  push_cast
  ring

theorem halfway_eq_sub (m : Nat) (e : Int) : halfway m e = weight (m + 1) e - weight 1 (e - 1) := by
  rw [← weight_two_mul, halfway]
  unfold weight
  push_cast
  ring

/-! ## Rounding -/

/-- The number that `v` is rounded to: of its two neighbours the nearer one, or the one with the
even mantissa if `v` is half way between them. -/
inductive Rounds (v : Rat) : Rat → Prop
  | down {m : Nat} {e : Int} (normalized : IsNormalized m e) (above : weight m e ≤ v)
      (near : v ≤ halfway m e) (even : v = halfway m e → m % 2 = 0) : Rounds v (weight m e)
  | up {m : Nat} {e : Int} (normalized : IsNormalized m e) (below : v < weight (m + 1) e)
      (near : halfway m e ≤ v) (odd : v = halfway m e → m % 2 = 1) : Rounds v (weight (m + 1) e)

/-- Both neighbours of a number are below those of a number with a greater exponent. -/
theorem IsNormalized.next_le {m n : Nat} {d e : Int} (hm : IsNormalized m d) (hn : IsNormalized n e)
    (h : d < e) : weight (m + 1) d ≤ weight n e := by
  have full : 2 ^ 52 ≤ n := hn.full.resolve_left (by have := hm.least; omega)
  calc weight (m + 1) d ≤ weight (2 ^ 53) d := weight_le_weight.2 hm.small
    _ = weight (2 ^ 52) (d + 1) := weight_mul_pow (2 ^ 52) 1 d
    _ ≤ weight (2 ^ 52) e := weight_le_weight_right h
    _ ≤ weight n e := weight_le_weight.2 full

/-- Two numbers in order lie between the same neighbours, or between different ones in order. -/
theorem IsNormalized.next_le_or_eq {m n : Nat} {d e : Int} {v w : Rat} (hm : IsNormalized m d)
    (hn : IsNormalized n e) (above : weight m d ≤ v) (below : w < weight (n + 1) e) (h : v ≤ w) :
    weight (m + 1) d ≤ weight n e ∨ m = n ∧ d = e := by
  have apart : weight m d < weight (n + 1) e := (above.trans h).trans_lt below
  rcases lt_trichotomy d e with before | rfl | after
  · exact .inl (hm.next_le hn before)
  · rcases (Nat.lt_succ_iff.1 (weight_lt_weight.1 apart)).lt_or_eq with less | same
    · exact .inl (weight_le_weight.2 less)
    · exact .inr ⟨same, rfl⟩
  · exact absurd apart (hn.next_le hm after).not_gt

/-- No number in normal form lies between two neighbours. -/
theorem IsNormalized.le_or_next_le {m n : Nat} {d e : Int} (hm : IsNormalized m d)
    (hn : IsNormalized n e) : weight n e ≤ weight m d ∨ weight (m + 1) d ≤ weight n e := by
  rcases le_total (weight n e) (weight m d) with le | le
  · exact .inl le
  · rcases hm.next_le_or_eq hn le_rfl (weight_lt_weight.2 (Nat.lt_succ_self n)) le with
      apart | ⟨rfl, rfl⟩
    · exact .inr apart
    · exact .inl le_rfl

namespace Rounds

variable {u v w x : Rat} {n : Nat} {e : Int}

/-- Rounding keeps the order. -/
theorem mono (h : Rounds v w) (h' : Rounds u x) (le : v ≤ u) : w ≤ x := by
  cases h with
  | down hm above near even =>
    cases h' with
    | down hn above' near' even' =>
      rcases hm.next_le_or_eq hn above (near'.trans_lt (halfway_lt_weight ..)) le with apart | ⟨rfl, rfl⟩
      · exact (weight_le_weight.2 (Nat.le_succ _)).trans apart
      · exact le_rfl
    | up hn below' near' odd' =>
      rcases hm.next_le_or_eq hn above below' le with apart | ⟨rfl, rfl⟩
      · exact (weight_le_weight.2 (Nat.le_succ _)).trans
          (apart.trans (weight_le_weight.2 (Nat.le_succ _)))
      · exact weight_le_weight.2 (Nat.le_succ _)
  | up hm below near odd =>
    have above := (weight_lt_halfway ..).le.trans near
    cases h' with
    | down hn above' near' even' =>
      rcases hm.next_le_or_eq hn above (near'.trans_lt (halfway_lt_weight ..)) le with apart | ⟨rfl, rfl⟩
      · exact apart
      · -- both are half way, and then they are rounded alike
        have half : v = halfway _ _ := le_antisymm (le.trans near') near
        have half' : u = halfway _ _ := le_antisymm near' (near.trans le)
        have := odd half
        have := even' half'
        omega
    | up hn below' near' odd' =>
      rcases hm.next_le_or_eq hn above below' le with apart | ⟨rfl, rfl⟩
      · exact apart.trans (weight_le_weight.2 (Nat.le_succ _))
      · exact le_rfl

/-- A number is rounded to one number only. -/
theorem unique (h : Rounds v w) (h' : Rounds v x) : w = x :=
  le_antisymm (h.mono h' le_rfl) (h'.mono h le_rfl)

/-- A number in normal form is rounded to itself. -/
theorem of_isNormalized (h : IsNormalized n e) : Rounds (weight n e) (weight n e) :=
  .down h le_rfl (weight_lt_halfway n e).le fun half => absurd half (weight_lt_halfway n e).ne

theorem le_weight (h : Rounds v w) (hn : IsNormalized n e) (le : v ≤ weight n e) : w ≤ weight n e :=
  h.mono (of_isNormalized hn) le

theorem nonneg (h : Rounds v w) : 0 ≤ w := by
  cases h with
  | down | up => exact weight_nonneg _ _

/-- No number in normal form is nearer than the one that a number is rounded to. -/
theorem nearest (h : Rounds v w) (hn : IsNormalized n e) : |w - v| ≤ |weight n e - v| := by
  cases h with
  | @down m d hm above near even =>
    have middle := halfway_eq_add m d
    have middle' := halfway_eq_sub m d
    rw [abs_sub_comm, abs_of_nonneg (sub_nonneg.2 above), le_abs]
    rcases hm.le_or_next_le hn with below | beyond
    · exact .inr (by linarith)
    · exact .inl (by linarith)
  | @up m d hm below near odd =>
    have middle := halfway_eq_add m d
    have middle' := halfway_eq_sub m d
    rw [abs_of_nonneg (sub_nonneg.2 below.le), le_abs]
    rcases hm.le_or_next_le hn with before | beyond
    · exact .inr (by linarith)
    · exact .inl (by linarith)

/-- A mantissa is rounded by a half at most. -/
theorem exists_abs_sub_le (h : Rounds v w) : ∃ m d, IsNormalized m d ∧ weight m d ≤ v ∧
    v < weight (m + 1) d ∧ |w - v| ≤ weight 1 (d - 1) := by
  cases h with
  | down hm above near even =>
    refine ⟨_, _, hm, above, near.trans_lt (halfway_lt_weight ..), ?_⟩
    rw [halfway_eq_add] at near
    rw [abs_sub_comm, abs_of_nonneg (by linarith)]
    linarith
  | up hm below near odd =>
    refine ⟨_, _, hm, (weight_lt_halfway ..).le.trans near, below, ?_⟩
    rw [halfway_eq_sub] at near
    rw [abs_of_nonneg (by linarith)]
    linarith

/-- The least number with all the bits of a mantissa. -/
theorem weight_least_full : weight (2 ^ 52) (-1074) = 1 / 2 ^ 1022 :=
  calc weight (2 ^ 52) (-1074) = weight 1 (-1022) := weight_mul_pow 1 52 (-1074)
    _ = 1 / 2 ^ 1022 := by rw [weight, Nat.cast_one, one_mul, zpow_neg, zpow_ofNat, one_div]

/-- Rounding changes a number by `2 ^ -53` of it at most, unless it is very small. -/
theorem abs_sub_le (h : Rounds v w) (normal : 1 / 2 ^ 1022 ≤ v) : |w - v| ≤ v / 2 ^ 53 := by
  obtain ⟨m, d, hm, above, below, near⟩ := h.exists_abs_sub_le
  refine near.trans ?_
  have full : weight (2 ^ 52) d ≤ v := by
    rcases hm.full with rfl | full
    · rw [weight_least_full]
      exact normal
    · exact (weight_le_weight.2 full).trans above
  have half : weight 1 (d - 1) * 2 ^ 53 = weight (2 ^ 52) d := by
    unfold weight
    rw [zpow_sub_one₀ (by norm_num)]
    push_cast
    ring
  rw [le_div_iff₀ (by positivity), half]
  exact full

end Rounds

/-! ## The extra bits -/

/-- Where the exact number `v` lies, by what is left of its mantissa and the two extra bits. -/
inductive Brackets (v : Rat) (e : Int) : ExtendedMantissa → Prop
  | exact {m : Nat} (eq : v = weight m e) : Brackets v e ⟨m, false, false⟩
  | below {m : Nat} (above : weight m e < v) (below : v < halfway m e) : Brackets v e ⟨m, false, true⟩
  | half {m : Nat} (eq : v = halfway m e) : Brackets v e ⟨m, true, false⟩
  | above {m : Nat} (above : halfway m e < v) (below : v < weight (m + 1) e) :
      Brackets v e ⟨m, true, true⟩

namespace Brackets

variable {v : Rat} {e : Int} {em : ExtendedMantissa}

/-- Either nothing was lost, or the exact number lies strictly between two neighbours. -/
theorem eq_or_between (h : Brackets v e em) :
    (em.roundBit || em.stickyBit) = false ∧ v = weight em.mantissa e ∨
      (em.roundBit || em.stickyBit) = true ∧ weight em.mantissa e < v ∧
        v < weight (em.mantissa + 1) e := by
  cases h with
  | exact eq => exact .inl ⟨rfl, eq⟩
  | below above below => exact .inr ⟨rfl, above, below.trans (halfway_lt_weight ..)⟩
  | half eq =>
    rw [eq]
    exact .inr ⟨rfl, weight_lt_halfway .., halfway_lt_weight ..⟩
  | above above below => exact .inr ⟨rfl, (weight_lt_halfway ..).trans above, below⟩

theorem shiftRightOne (h : Brackets v e em) : Brackets v (e + 1) em.shiftRightOne := by
  have bits := h.eq_or_between
  obtain ⟨m, round, sticky⟩ := em
  dsimp only at bits
  unfold ExtendedMantissa.shiftRightOne
  dsimp only
  have weight_eq (q : Nat) : weight q (e + 1) = weight (2 * q) e := by
    rw [← weight_two_mul, Int.add_sub_cancel]
  have halfway_eq (q : Nat) : halfway q (e + 1) = weight (2 * q + 1) e := by
    rw [halfway, Int.add_sub_cancel]
  -- the last bit of the mantissa becomes the bit for halves
  rcases Nat.even_or_odd' m with ⟨q, rfl | rfl⟩
  · have quotient : 2 * q / 2 = q := by omega
    have bit : (2 * q % 2 != 0) = false := by simp
    rw [quotient, bit]
    rcases bits with ⟨none, eq⟩ | ⟨lost, above, below⟩
    · rw [none]
      exact .exact (eq.trans (weight_eq q).symm)
    · rw [lost]
      refine .below ?_ ?_
      · rw [weight_eq]
        exact above
      · rw [halfway_eq]
        exact below
  · have quotient : (2 * q + 1) / 2 = q := by omega
    have bit : ((2 * q + 1) % 2 != 0) = true := by simp
    rw [quotient, bit]
    rcases bits with ⟨none, eq⟩ | ⟨lost, above, below⟩
    · rw [none]
      exact .half (eq.trans (halfway_eq q).symm)
    · rw [lost]
      refine .above ?_ ?_
      · rw [halfway_eq]
        exact above
      · rw [weight_eq]
        exact below

/-- A shift keeps track of where the exact number lies. -/
theorem shiftRight (h : Brackets v e em) (n : Nat) : Brackets v (e + n) (em >>> n) := by
  induction n with
  | zero =>
    rw [Nat.cast_zero, add_zero]
    exact h
  | succ n ih =>
    rw [Nat.cast_succ, ← add_assoc]
    exact ih.shiftRightOne

/-- The rounded mantissa. -/
theorem rounds (h : Brackets v e em) (normalized : IsNormalized em.mantissa e) :
    Rounds v (weight em.roundedMantissa e) := by
  cases h with
  | exact eq =>
    rw [eq]
    exact .of_isNormalized normalized
  | below above below => exact .down normalized above.le below.le fun half => absurd half below.ne
  | @half m eq =>
    show Rounds v (weight (m + m % 2) e)
    rcases Nat.mod_two_eq_zero_or_one m with even | odd
    · rw [even]
      exact .down normalized (eq ▸ (weight_lt_halfway ..).le) eq.le fun _ => even
    · rw [odd]
      exact .up normalized (eq ▸ halfway_lt_weight ..) eq.ge fun _ => odd
  | above above below => exact .up normalized below above.le fun half => absurd half above.ne'

end Brackets

/-- The quotient of two whole numbers and what is left of it. -/
theorem brackets_div (m : Nat) {k : Nat} (d : Int) (pos : 0 < k) :
    Brackets (weight m d / k) d
      (ExtendedMantissa.ofMantissaAndAccuracy (m / k) (accuracyOfFraction (m % k) k)) := by
  have positive : (0 : Rat) < k := Nat.cast_pos.2 pos
  have parts : m / k * k + m % k = m := Nat.div_add_mod' m k
  have less : m % k < k := Nat.mod_lt m pos
  have scaled (n : Nat) (c : Int) : weight n c * k = weight (n * k) c := by
    unfold weight
    push_cast
    ring
  unfold accuracyOfFraction
  split
  · next exact =>
    refine .exact ?_
    rw [div_eq_iff positive.ne', scaled]
    congr 1
    omega
  · next rest =>
    have above : weight (m / k) d < weight m d / k := by
      rw [lt_div_iff₀ positive, scaled, weight_lt_weight]
      omega
    have below : weight m d / k < weight (m / k + 1) d := by
      rw [div_lt_iff₀ positive, scaled, weight_lt_weight, Nat.add_mul]
      omega
    have half : (2 * (m / k) + 1) * k = 2 * (m / k * k) + k := by ring
    rcases lt_trichotomy (2 * (m % k)) k with small | even | large
    · rw [Nat.compare_eq_lt.2 small]
      refine .below above ?_
      rw [div_lt_iff₀ positive, halfway, scaled, ← weight_two_mul m, weight_lt_weight]
      omega
    · rw [Nat.compare_eq_eq.2 even]
      refine .half ?_
      rw [div_eq_iff positive.ne', halfway, scaled, ← weight_two_mul m]
      congr 1
      omega
    · rw [Nat.compare_eq_gt.2 large]
      refine .above ?_ below
      rw [lt_div_iff₀ positive, halfway, scaled, ← weight_two_mul m, weight_lt_weight]
      omega

/-! ## Results -/

/-- An unpacked number of this sign and size, in normal form. -/
inductive Sized (s : Sign) : Rat → UnpackedFloat → Prop
  | zero : Sized s 0 (.zero s)
  | finite {m : Nat} {e : Int} {pos : 0 < m} (normalized : IsNormalized m e) :
      Sized s (weight m e) (.finite s m e pos)

theorem weight_zero (e : Int) : weight 0 e = 0 := by
  rw [weight, Nat.cast_zero, zero_mul]

theorem shiftToTargetExponent_exact (m : Nat) (e : Int) :
    shiftToTargetExponent Format.binary64 m e .exact =
      (ExtendedMantissa.mk m false false >>>
          (max ((m.log2 : Int) + 1 + e - 53) (-1074) - e).toNat,
        e + ((max ((m.log2 : Int) + 1 + e - 53) (-1074) - e).toNat : Nat)) :=
  rfl

/-- A mantissa with all of its bits at most is not shifted. -/
theorem shiftToTargetExponent_of_lt {m : Nat} {e : Int} (small : m < 2 ^ 53) (least : -1074 ≤ e) :
    shiftToTargetExponent Format.binary64 m e .exact = (⟨m, false, false⟩, e) := by
  have log : m.log2 < 53 := by
    rcases Nat.eq_zero_or_pos m with rfl | pos
    · decide
    · exact (Nat.log2_lt pos.ne').2 small
  have none : (max ((m.log2 : Int) + 1 + e - 53) (-1074) - e).toNat = 0 := by omega
  rw [shiftToTargetExponent_exact, none, Nat.cast_zero, add_zero]
  rfl

/-- A mantissa that has become one bit longer loses just a zero. -/
theorem shiftToTargetExponent_carry {e : Int} (least : -1074 ≤ e) :
    shiftToTargetExponent Format.binary64 (2 ^ 53) e .exact = (⟨2 ^ 52, false, false⟩, e + 1) := by
  have one : (max (((2 ^ 53).log2 : Int) + 1 + e - 53) (-1074) - e).toNat = 1 := by
    rw [Nat.log2_two_pow]
    omega
  rw [shiftToTargetExponent_exact, one, Nat.cast_one]
  rfl

/-- A result with its extra bits, rounded. -/
theorem exists_rounds (s : Sign) {m : Nat} {d : Int} {a : Accuracy} {v : Rat} (fits : Fits m d)
    (brackets : Brackets v d (ExtendedMantissa.ofMantissaAndAccuracy m a)) :
    ∃ w, Rounds v w ∧ Sized s w (roundWithAccuracy Format.binary64 s m d a) := by
  have first := isNormalized_shiftToTargetExponent fits a
  have rounds : Rounds v (weight (shiftToTargetExponent Format.binary64 m d a).1.roundedMantissa
      (shiftToTargetExponent Format.binary64 m d a).2) := (brackets.shiftRight _).rounds first
  refine ⟨_, rounds, ?_⟩
  unfold roundWithAccuracy
  dsimp only
  generalize shiftToTargetExponent Format.binary64 m d a = shifted at *
  obtain ⟨em, d'⟩ := shifted
  dsimp only at *
  have grown : em.roundedMantissa ≤ 2 ^ 53 ∧ em.mantissa ≤ em.roundedMantissa := by
    have := first.small
    rcases roundedMantissa_cases em with same | ⟨next, -⟩ <;> omega
  rcases grown.1.lt_or_eq with small | carry
  · rw [shiftToTargetExponent_of_lt small first.least]
    dsimp only
    by_cases zero : em.roundedMantissa = 0
    · rw [dif_pos zero, zero, weight_zero]
      exact .zero
    · rw [dif_neg zero]
      exact .finite ⟨small, first.least, first.full.imp_right fun full => full.trans grown.2⟩
  · have carried : weight (2 ^ 53) d' = weight (2 ^ 52) (d' + 1) := weight_mul_pow (2 ^ 52) 1 d'
    rw [carry, shiftToTargetExponent_carry first.least, carried]
    have := first.least
    exact .finite ⟨by decide, by omega, .inr le_rfl⟩

/-- A product, rounded. -/
theorem exists_rounds_mul (s : Sign) {m k : Nat} {d c : Int} (pos : 0 < m) (pos' : 0 < k)
    (fits : Fits (m * k) (d + c)) : ∃ w, Rounds (weight m d * weight k c) w ∧
      Sized s w (UnpackedFloat.mul Format.binary64 (.finite s m d pos) (.finite .positive k c pos')) := by
  have sign : s * .positive = s := by cases s <;> rfl
  rw [weight_mul_weight]
  show ∃ w, _ ∧ Sized s w (roundWithAccuracy _ (s * .positive) ..)
  rw [sign]
  exact exists_rounds s fits (.exact rfl)

/-- A quotient, rounded. -/
theorem exists_rounds_div (s : Sign) {m k : Nat} (d c : Int) (pos : 0 < m) (pos' : 0 < k) :
    ∃ w, Rounds (weight m d / weight k c) w ∧
      Sized s w (UnpackedFloat.div Format.binary64 (.finite s m d pos) (.finite .positive k c pos')) := by
  have sign : s / .positive = s := by cases s <;> rfl
  show ∃ w, _ ∧ Sized s w (roundWithAccuracy _ (s / .positive) ..)
  rw [sign, ← weight_sub_div, ← weight_shiftLeft m (min_le_left (d - c)
    (Format.binary64.targetExponent (totalExponent m d - totalExponent k c)))]
  exact exists_rounds s (fits_divCore m d k c pos pos') (brackets_div _ _ pos')

/-- A number is given all the bits of a mantissa before it is rounded. -/
theorem exists_rounds_round (s : Sign) {m : Nat} (e : Int) (pos : 0 < m) :
    ∃ w, Rounds (weight m e) w ∧ Sized s w (UnpackedFloat.round Format.binary64 s m e) := by
  obtain ⟨t, ht⟩ : ∃ t, max ((m.log2 : Int) + 1 + e - 53) (-1074) = t := ⟨_, rfl⟩
  have unshifted : weight (m <<< (e - t).toNat) (e - (e - t).toNat) = weight m e := by
    rw [Nat.shiftLeft_eq, weight_mul_pow, Int.sub_add_cancel]
  have fits : Fits (m <<< (e - t).toNat) (e - (e - t).toNat) := by
    rcases Int.lt_or_le (-1074) t with above | least
    · right
      rw [Nat.shiftLeft_eq]
      calc 2 ^ 52 ≤ 2 ^ (m.log2 + (e - t).toNat) := Nat.pow_le_pow_right (by decide) (by omega)
        _ = 2 ^ m.log2 * 2 ^ (e - t).toNat := Nat.pow_add ..
        _ ≤ m * 2 ^ (e - t).toNat := Nat.mul_le_mul_right _ (Nat.log2_self_le pos.ne')
    · left
      omega
  show ∃ w, _ ∧ Sized s w (roundWithAccuracy Format.binary64 s
    (m <<< (e - max ((m.log2 : Int) + 1 + e - 53) (-1074)).toNat)
    (e - ((e - max ((m.log2 : Int) + 1 + e - 53) (-1074)).toNat : Nat)) .exact)
  rw [ht, ← unshifted]
  exact exists_rounds s fits (.exact rfl)

theorem Sized.abs {s : Sign} {w : Rat} {u : UnpackedFloat} (h : Sized s w u) :
    Sized .positive w u.abs := by
  cases h with
  | zero => exact .zero
  | finite normalized => exact .finite normalized

/-- The size of a number with a sign, rounded. -/
theorem exists_rounds_normalize (k : Int) (e : Int) : ∃ w, Rounds (weight k.natAbs e) w ∧
    Sized .positive w (UnpackedFloat.normalize Format.binary64 k e .positive).abs := by
  unfold UnpackedFloat.normalize
  rcases lt_trichotomy k 0 with negative | rfl | positive
  · obtain ⟨w, rounds, sized⟩ := exists_rounds_round .negative e (Int.natAbs_pos.2 negative.ne)
    rw [Int.compare_eq_lt.2 negative, show (-k).toNat = k.natAbs by omega]
    exact ⟨w, rounds, sized.abs⟩
  · rw [Int.natAbs_zero, weight_zero]
    exact ⟨0, weight_zero (-1074) ▸ .of_isNormalized ⟨by decide, le_rfl, .inl rfl⟩, .zero⟩
  · obtain ⟨w, rounds, sized⟩ := exists_rounds_round .positive e (Int.natAbs_pos.2 positive.ne')
    rw [Int.compare_eq_gt.2 positive, show k.toNat = k.natAbs by omega]
    exact ⟨w, rounds, sized.abs⟩

/-- The size of a difference, rounded. -/
theorem exists_rounds_sub {m n : Nat} (d e : Int) (pos : 0 < m) (pos' : 0 < n) :
    ∃ w, Rounds |weight m d - weight n e| w ∧
      Sized .positive w (UnpackedFloat.sub Format.binary64 (.finite .positive m d pos)
        (.finite .positive n e pos')).abs := by
  have aligned : |weight m d - weight n e| = weight ((m <<< (d - min d e).toNat : Nat) -
      (n <<< (e - min d e).toNat : Nat) : Int).natAbs (min d e) := by
    rw [← weight_shiftLeft m (min_le_left d e), ← weight_shiftLeft n (min_le_right d e)]
    unfold weight
    rw [← sub_mul, abs_mul, abs_of_pos (show (0 : Rat) < 2 ^ min d e by positivity), Nat.cast_natAbs]
    push_cast
    rfl
  rw [aligned]
  exact exists_rounds_normalize _ _

/-- A sum, rounded. -/
theorem exists_rounds_add {m n : Nat} (d e : Int) (pos : 0 < m) (pos' : 0 < n) :
    ∃ w, Rounds (weight m d + weight n e) w ∧
      Sized .positive w (UnpackedFloat.add Format.binary64 (.finite .positive m d pos)
        (.finite .positive n e pos')) := by
  obtain ⟨k, hk⟩ : ∃ k, m <<< (d - min d e).toNat + n <<< (e - min d e).toNat = k := ⟨_, rfl⟩
  have aligned : weight m d + weight n e = weight k (min d e) := by
    rw [← weight_shiftLeft m (min_le_left d e), ← weight_shiftLeft n (min_le_right d e), ← hk]
    unfold weight
    rw [← add_mul, ← Nat.cast_add]
  have positive : 0 < k := by
    rw [← hk, Nat.shiftLeft_eq]
    exact Nat.add_pos_left (Nat.mul_pos pos (by positivity)) _
  have sum : UnpackedFloat.add Format.binary64 (.finite .positive m d pos) (.finite .positive n e pos') =
      UnpackedFloat.normalize Format.binary64 k (min d e) .positive := by
    rw [← hk, Nat.cast_add]
    rfl
  rw [aligned, sum]
  unfold UnpackedFloat.normalize
  rw [Int.compare_eq_gt.2 (Int.natCast_pos.2 positive), Int.toNat_natCast]
  exact exists_rounds_round .positive (min d e) positive

end Teller.Number
