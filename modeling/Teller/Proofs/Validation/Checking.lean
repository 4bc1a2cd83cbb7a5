import Teller.Proofs.Templates
import Teller.Proofs.Validation.Filing

/-!
# Rules can be carried out

A rule breaks off on a whole number beyond all doubles, on a pattern that is not well formed, and
where a check of its own does. The rules of the templates have no such checks and ask for no
pattern, and none is about a field that holds whole numbers, so each of them can be carried out; and
then no finding of a review says that validation itself went wrong.

    exists_finding?_eq_ok       a plain rule can be carried out on texts and doubles
    code_of_review              no finding of a review is about the validation
-/

namespace Teller

namespace Rule

theorem exists_numberOf?_eq_ok {value : FieldValue} (h : ∀ n, value ≠ .whole n) :
    ∃ x, numberOf? value = .ok x := by
  cases value with
  | whole n => exact absurd rfl (h n)
  | text | real | flag | names | hops | fees => exact ⟨_, rfl⟩

/-- One of the two checks that the templates apply. -/
def Check.isOfTemplates : Check → Bool
  | positive | supportedToken => true
  | other .. => false

/-- A rule applies no other check than the templates do, and asks for no pattern, no list of allowed
values and no check among its constraints. -/
def isPlain (rule : Rule) : Bool :=
  rule.check.all (·.isOfTemplates) &&
    rule.constraints.all fun k => k.pattern.isNone && k.oneOf.isNone && k.custom.isNone

section

variable {catalog : Asset.Catalog} {rule : Rule} {value : FieldValue}

theorem exists_fits_eq_ok (h : ∀ n, value ≠ .whole n) : ∃ b, rule.kind.fits catalog value = .ok b := by
  obtain ⟨x, hx⟩ := exists_numberOf?_eq_ok h
  cases rule.kind with
  | number => exact ⟨_, by rw [Kind.fits, hx]; rfl⟩
  | string | boolean | token | protocol | address | other name => exact ⟨_, rfl⟩

theorem exists_passes_eq_ok (h : ∀ n, value ≠ .whole n) {check : Check}
    (known : check.isOfTemplates = true) : ∃ b, check.passes value = .ok b := by
  obtain ⟨x, hx⟩ := exists_numberOf?_eq_ok h
  cases check with
  | other => cases known
  | supportedToken => exact ⟨_, rfl⟩
  | positive =>
    unfold Check.passes isPositive
    dsimp only
    split
    · exact ⟨_, rfl⟩
    · exact ⟨_, by rw [hx]; rfl⟩

theorem exists_violation?_eq_ok (h : ∀ n, value ≠ .whole n) {k : Constraints} (pattern : k.pattern = none)
    (oneOf : k.oneOf = none) (custom : k.custom = none) :
    ∃ violation, k.violation? value = .ok violation := by
  obtain ⟨x, hx⟩ := exists_numberOf?_eq_ok h
  unfold Constraints.violation?
  rw [hx, pattern, oneOf, custom]
  simp only [bind, Except.bind, pure, Except.pure, Option.filter_none]
  repeat' split
  all_goals exact ⟨_, rfl⟩

theorem exists_constraint_eq_ok (plain : rule.isPlain = true) (h : ∀ n, value ≠ .whole n) :
    ∀ k, rule.constraints = some k → ∃ violation, k.violation? value = .ok violation := by
  intro k hk
  have constrained := (Bool.and_eq_true_iff.1 plain).2
  rw [hk, Option.all_some, Bool.and_eq_true, Bool.and_eq_true] at constrained
  simp only [Option.isNone_iff_eq_none] at constrained
  exact exists_violation?_eq_ok h constrained.1.1 constrained.1.2 constrained.2

/-- A plain rule can be carried out on texts and doubles. -/
theorem exists_finding?_eq_ok (plain : rule.isPlain = true) (h : ∀ n, value ≠ .whole n) :
    ∃ found, finding? catalog rule value = .ok found := by
  obtain ⟨fits, hf⟩ : ∃ fits, rule.kind.fits catalog value = .ok fits := exists_fits_eq_ok h
  have constrained := exists_constraint_eq_ok plain h
  have passed : ∀ check, rule.check = some check → ∃ b, check.passes value = .ok b := by
    intro check hc
    have known := (Bool.and_eq_true_iff.1 plain).1
    rw [hc, Option.all_some] at known
    exact exists_passes_eq_ok h known
  obtain ⟨field, kind, required, check, constraints⟩ := rule
  unfold finding?
  rw [hf, ok_bind]
  cases fits with
  | false => exact ⟨_, rfl⟩
  | true =>
    cases constraints with
    | none =>
      cases check with
      | none => exact ⟨_, rfl⟩
      | some check =>
        obtain ⟨passes, hp⟩ := passed check rfl
        simp only [hp, ok_bind]
        cases passes <;> exact ⟨_, rfl⟩
    | some k =>
      obtain ⟨violation, hv⟩ := constrained k rfl
      cases check with
      | none =>
        simp only [hv, ok_bind]
        cases violation <;> exact ⟨_, rfl⟩
      | some check =>
        obtain ⟨passes, hp⟩ := passed check rfl
        simp only [hp, hv, ok_bind]
        cases passes with
        | false => exact ⟨_, rfl⟩
        | true => cases violation <;> exact ⟨_, rfl⟩

end

/-- The rules of the templates are plain and not about whole numbers. -/
theorem isPlain_of_mem_all {t : Template} (ht : t ∈ Template.all) {rule : Rule} (mem : rule ∈ t.rules) :
    rule.isPlain = true ∧ rule.field ≠ "deadline" ∧ rule.field ≠ "gas_limit" := by
  have all_plain : ∀ t ∈ Template.all, ∀ rule ∈ t.rules,
      rule.isPlain = true ∧ rule.field ≠ "deadline" ∧ rule.field ≠ "gas_limit" := by
    decide +kernel
  exact all_plain t ht rule mem

/-- Only the deadline and the limit of gas are whole numbers. -/
theorem field_of_whole {p : Parameters} {field : String} {n : Int}
    (h : p.get? field = some (.whole n)) : field = "deadline" ∨ field = "gas_limit" := by
  rcases Option.or_eq_some_iff.1 h with stated | ⟨_, rest⟩
  · left
    unfold Primary.get? at stated
    split at stated
    all_goals first
      | rfl
      | simp at stated
  · rcases Option.or_eq_some_iff.1 rest with tuned | ⟨_, estimated⟩
    · right
      unfold Tuning.get? at tuned
      split at tuned
      all_goals first
        | rfl
        | simp at tuned
    · unfold Estimates.get? at estimated
      split at estimated
      all_goals simp at estimated

/-- What the rules of a template find is never that a rule could not be carried out. -/
theorem code_of_mem_checkAll {catalog : Asset.Catalog} {p : Parameters} {t : Template}
    (ht : t ∈ Template.all) {f : Finding} (h : f ∈ checkAll catalog p t.rules) :
    f.code ≠ .validationError := by
  obtain ⟨rule, mem, found⟩ := List.mem_filterMap.1 h
  obtain ⟨plain, no_deadline, no_limit⟩ := isPlain_of_mem_all ht mem
  unfold findingIn? at found
  split at found
  · cases found
  · next value hv =>
    have not_whole : ∀ n, value ≠ .whole n := by
      rintro n rfl
      rcases field_of_whole hv with deadline | limit
      · exact no_deadline deadline
      · exact no_limit limit
    obtain ⟨answer, carried⟩ : ∃ answer, finding? catalog rule value = .ok answer :=
      exists_finding?_eq_ok plain not_whole
    rw [carried] at found
    dsimp only at found
    rw [found] at carried
    exact (Finding.Code.ne_of_isOfRules (finding?_eq_some carried).2.2).2

end Rule

namespace Review

/-- No finding of a review is about the validation. -/
theorem code_of_review (config : Config) (catalog : Asset.Catalog) {s : Subject}
    (known : s.template ∈ Template.all) :
    (∀ f ∈ (review config catalog s).errors, f.code ≠ .validationError) ∧
      ∀ f ∈ (review config catalog s).warnings, f.code ≠ .validationError := by
  have sorted := sorted_business config s
  constructor
  · intro f hf
    rcases List.mem_append.1 hf with hf | business
    · rcases List.mem_append.1 hf with required | rules
      · obtain ⟨⟨field, value⟩, _, found⟩ := List.mem_filterMap.1 required
        simp only [Option.ite_none_right_eq_some, Option.some.injEq] at found
        rw [← found.2]
        exact nofun
      · exact Rule.code_of_mem_checkAll known rules
    · exact (Finding.Code.ne_of_stage_eq_business (sorted.errors f business).2).2
  · intro f hf
    rcases List.mem_append.1 hf with note | business
    · obtain ⟨⟨field, value⟩, _, found⟩ := List.mem_filterMap.1 note
      obtain ⟨v, _, rfl⟩ := Option.map_eq_some_iff.1 found
      exact nofun
    · exact (Finding.Code.ne_of_stage_eq_business (sorted.warnings f business).2).2

end Review

end Teller
