import Teller.Proofs.Number.Bounds
import Teller.Proofs.Templates
import Teller.Proofs.Validation.Filing

/-!
# Limits of numbers

Constraints find fault with a number that is outside of their limits. NaN is not outside of
anything, so what passes is within the limits or NaN; only where the number must be positive too is
NaN left out.

    Constraints.Admits             a number is within the limits
    admits_iff                     of what passes, all but NaN is within the limits
    isBounded_of_mem_all           what the constraints of the templates look like
    Holds.exists_number            the number of a value that a rule with limits lets pass
-/

namespace Teller.Rule

/-- A number is within the limits that constraints set. -/
structure Constraints.Admits (k : Constraints) (x : Float) : Prop where
  least : ∀ b, k.least = some b → b ≤ x
  most : ∀ b, k.most = some b → x ≤ b

/-- Constraints have a lower limit, and their limits are numbers. -/
def Constraints.isBounded (k : Constraints) : Bool :=
  k.least.any (fun b => !b.isNaN) && k.most.all (fun b => !b.isNaN)

theorem not_outside_of_violation?_eq_none {k : Constraints} {value : FieldValue} {x : Float}
    (h : k.violation? value = .ok none) (hx : numberOf? value = .ok (some x)) :
    (∀ b, k.least = some b → ¬x < b) ∧ (∀ b, k.most = some b → ¬b < x) := by
  unfold Constraints.violation? at h
  obtain ⟨number, hn, h⟩ := bind_eq_ok h
  rw [hx] at hn
  cases hn
  constructor
  · intro b hb below
    rw [hb] at h
    simp only [below, if_pos] at h
    cases h
  · intro b hb above
    rw [hb] at h
    simp only [above, if_pos] at h
    split at h
    · split at h <;> cases h
    · cases h

/-- Of what passes, all but NaN is within the limits. -/
theorem admits_iff {k : Constraints} {value : FieldValue} {x : Float} (bounded : k.isBounded = true)
    (h : k.violation? value = .ok none) (hx : numberOf? value = .ok (some x)) :
    k.Admits x ↔ x.isNaN = false := by
  obtain ⟨low, high⟩ := Bool.and_eq_true_iff.1 bounded
  obtain ⟨lowest, hl, lowest_isNaN⟩ := (Option.any_eq_true ..).1 low
  rw [Bool.not_eq_true'] at lowest_isNaN
  constructor
  · intro admits
    exact (Number.not_isNaN_of_le (admits.least lowest hl)).2
  · intro number
    obtain ⟨not_below, not_above⟩ := not_outside_of_violation?_eq_none h hx
    constructor
    · intro b hb
      rw [hl] at hb
      cases hb
      exact Number.le_of_not_lt lowest_isNaN number (not_below lowest hl)
    · intro b hb
      rw [hb] at high
      exact Number.le_of_not_lt number (Bool.not_eq_true' _ ▸ high) (not_above b hb)

/-- The constraints of the templates are about numbers and have limits. -/
theorem isBounded_of_mem_all {t : Template} (ht : t ∈ Template.all) {rule : Rule}
    (mem : rule ∈ t.rules) {k : Constraints} (hk : rule.constraints = some k) :
    rule.kind = .number ∧ k.isBounded = true := by
  have all_bounded : ∀ t ∈ Template.all, ∀ rule ∈ t.rules,
      rule.constraints.all fun k => rule.kind = .number && k.isBounded := by
    decide +kernel
  have bounded := all_bounded t ht rule mem
  rw [hk] at bounded
  simpa using bounded

theorem not_isNaN_of_isPositive {value : FieldValue} {x : Float}
    (h : isPositive value = .ok true) (hx : numberOf? value = .ok (some x)) : x.isNaN = false := by
  have positive : 0 < x := by
    cases value with
    | flag b => cases hx
    | _ =>
      dsimp only [isPositive] at h
      rw [hx] at h
      exact of_decide_eq_true (Except.ok.inj h)
  exact (Number.not_isNaN_of_lt positive).2

/-- The number of a value that a rule with limits lets pass. -/
theorem Holds.exists_number {catalog : Asset.Catalog} {rule : Rule} {value : FieldValue}
    (h : rule.Holds catalog value) {k : Constraints} (hk : rule.constraints = some k)
    (number : rule.kind = .number) (bounded : k.isBounded = true) :
    ∃ x, numberOf? value = .ok (some x) ∧ (k.Admits x ↔ x.isNaN = false) ∧
      (rule.check = some .positive → x.isNaN = false) := by
  have fits := h.fits
  rw [number] at fits
  cases hn : numberOf? value with
  | error fault =>
    rw [Kind.fits, hn] at fits
    cases fits
  | ok found =>
    rw [Kind.fits, hn] at fits
    obtain ⟨x, rfl⟩ := Option.isSome_iff_exists.1 (Except.ok.inj fits)
    refine ⟨x, rfl, admits_iff bounded (h.keeps k hk) hn, fun hc => ?_⟩
    exact not_isNaN_of_isPositive (h.passes .positive hc) hn

end Teller.Rule
