import Teller.Proofs.Success
import Teller.Validation.Review

/-!
# Findings are filed by severity

A review keeps errors and warnings apart. Whatever the rules and the business rules find, an error
goes to the errors, and nothing that only warns or informs does. A rule that finds nothing has seen
a value of its kind, which passes its check and keeps its constraints.

    of_mem_checkAll               what rules find are errors about what is stated
    holds_of_checkAll_eq_nil      if rules find nothing, values are as they ask for
    sorted_business               errors of the business rules are errors, and warnings are warnings
    filed_review                  a review files by severity
-/

namespace Teller

/-- Errors are errors, and among the warnings there is none. -/
structure Finding.Filed (errors warnings : List Finding) : Prop where
  severity_of_mem_errors : ∀ f ∈ errors, f.severity = .error
  severity_of_mem_warnings : ∀ f ∈ warnings, f.severity ≠ .error

namespace Finding.Filed

theorem nil : Filed [] [] := ⟨by simp, by simp⟩

theorem append {errors warnings errors' warnings' : List Finding} (h : Filed errors warnings)
    (h' : Filed errors' warnings') : Filed (errors ++ errors') (warnings ++ warnings') := by
  constructor
  · intro f hf
    rcases List.mem_append.1 hf with hf | hf
    · exact h.severity_of_mem_errors f hf
    · exact h'.severity_of_mem_errors f hf
  · intro f hf
    rcases List.mem_append.1 hf with hf | hf
    · exact h.severity_of_mem_warnings f hf
    · exact h'.severity_of_mem_warnings f hf

/-- A list of errors, all of which block. -/
theorem of_errors {errors : List Finding} (h : ∀ f ∈ errors, f.severity = .error) :
    Filed errors [] :=
  ⟨h, by simp⟩

theorem of_warnings {warnings : List Finding} (h : ∀ f ∈ warnings, f.severity ≠ .error) :
    Filed [] warnings :=
  ⟨by simp, h⟩

theorem blocking_eq (r : Review) (h : Filed r.errors r.warnings) : r.blocking = r.errors := by
  unfold Review.blocking
  rw [List.filter_eq_self]
  intro f hf
  rw [Finding.isBlocking, h.severity_of_mem_errors f hf]
  rfl

/-- A review whose findings are filed is valid exactly if it has no errors. -/
theorem isValid_iff (r : Review) (h : Filed r.errors r.warnings) : r.isValid ↔ r.errors = [] := by
  rw [Review.isValid, blocking_eq r h, List.isEmpty_iff]

end Finding.Filed

/-! ## Stages -/

/-- The stages of a review that find errors. -/
inductive Review.Stage where
  | required | rules | business
  deriving DecidableEq, Repr

/-- The stage that a code comes from. -/
def Finding.Code.stage : Finding.Code → Review.Stage
  | requiredParameterMissing | parameterInferred => .required
  | invalidType | validationFailed | constraintViolation | validationError => .rules
  | insufficientBalance | highPercentageOfBalance | insufficientCollateral | highUtilization
  | sameTokenSwap | highPriceImpact | lowLiquidityToken => .business

theorem Finding.Code.ne_of_stage_eq_business {code : Finding.Code} (h : code.stage = .business) :
    code ≠ requiredParameterMissing ∧ code ≠ validationError := by
  constructor <;> rintro rfl <;> cases h

/-! ## Rules -/

/-- A code of rules: it says neither whether a parameter was stated nor that a rule could not be
carried out. -/
def Finding.Code.isOfRules : Finding.Code → Bool
  | requiredParameterMissing | parameterInferred | validationError => false
  | _ => true

theorem Finding.Code.ne_of_isOfRules {code : Finding.Code} (h : code.isOfRules = true) :
    code ≠ requiredParameterMissing ∧ code ≠ validationError := by
  constructor <;> rintro rfl <;> cases h

namespace Rule

/-- What a rule finds is an error about its field, with a code of rules. -/
theorem finding?_eq_some {catalog : Asset.Catalog} {rule : Rule} {value : FieldValue} {f : Finding}
    (h : finding? catalog rule value = .ok (some f)) :
    f.severity = .error ∧ f.field = rule.field ∧ f.code.isOfRules = true := by
  unfold finding? at h
  simp only [bind, Except.bind, pure, Except.pure] at h
  repeat' split at h
  all_goals first
    | cases h
      exact ⟨rfl, rfl, rfl⟩
    | cases h

/-- What a rule asks of the value of its field. -/
structure Holds (catalog : Asset.Catalog) (rule : Rule) (value : FieldValue) : Prop where
  fits : rule.kind.fits catalog value = .ok true
  passes : ∀ check, rule.check = some check → check.passes value = .ok true
  keeps : ∀ k, rule.constraints = some k → k.violation? value = .ok none

/-- A rule that finds nothing has seen a value as it asks for. -/
theorem holds_of_finding?_eq_none {catalog : Asset.Catalog} {rule : Rule} {value : FieldValue}
    (h : finding? catalog rule value = .ok none) : rule.Holds catalog value := by
  unfold finding? at h
  dsimp only at h
  obtain ⟨fits, hf, h⟩ := bind_eq_ok h
  cases fits with
  | false => cases h
  | true =>
    refine ⟨hf, ?_, ?_⟩
    · intro check hc
      rw [hc] at h
      obtain ⟨passes, hp, h⟩ := bind_eq_ok h
      cases passes with
      | false => cases h
      | true => exact hp
    · intro k hk
      rw [hk] at h
      cases hc : rule.check with
      | none =>
        rw [hc] at h
        obtain ⟨violation, hv, h⟩ := bind_eq_ok h
        cases violation with
        | none => exact hv
        | some message => cases h
      | some check =>
        rw [hc] at h
        obtain ⟨passes, _, h⟩ := bind_eq_ok h
        cases passes with
        | false => cases h
        | true =>
          obtain ⟨violation, hv, h⟩ := bind_eq_ok h
          cases violation with
          | none => exact hv
          | some message => cases h

theorem findingIn?_eq_some {catalog : Asset.Catalog} {p : Parameters} {rule : Rule} {f : Finding}
    (h : findingIn? catalog p rule = some f) :
    f.severity = .error ∧ f.field = rule.field ∧ f.code ≠ .requiredParameterMissing := by
  unfold findingIn? at h
  split at h
  · cases h
  · split at h
    · next found hf =>
      rw [h] at hf
      obtain ⟨severity, field, code⟩ := finding?_eq_some hf
      exact ⟨severity, field, (Finding.Code.ne_of_isOfRules code).1⟩
    · cases h
      exact ⟨rfl, rfl, nofun⟩

/-- Rules find errors, but not that a parameter is missing. -/
theorem of_mem_checkAll {catalog : Asset.Catalog} {p : Parameters} {rules : List Rule}
    {f : Finding} (h : f ∈ checkAll catalog p rules) :
    f.severity = .error ∧ f.code ≠ .requiredParameterMissing := by
  obtain ⟨rule, _, found⟩ := List.mem_filterMap.1 h
  obtain ⟨severity, _, code⟩ := findingIn?_eq_some found
  exact ⟨severity, code⟩

theorem holds_of_checkAll_eq_nil {catalog : Asset.Catalog} {p : Parameters} {rules : List Rule}
    (h : checkAll catalog p rules = []) {rule : Rule} (mem : rule ∈ rules) {value : FieldValue}
    (hv : p.get? rule.field = some value) : rule.Holds catalog value := by
  have nothing : findingIn? catalog p rule = none := by
    cases hf : findingIn? catalog p rule with
    | none => rfl
    | some f =>
      have : f ∈ checkAll catalog p rules := List.mem_filterMap.2 ⟨rule, mem, hf⟩
      rw [h] at this
      cases this
  simp only [findingIn?, hv] at nothing
  split at nothing
  · next found hf =>
    rw [nothing] at hf
    exact holds_of_finding?_eq_none hf
  · cases nothing

end Rule

/-! ## Reviews -/

namespace Review

open Finding

theorem severity_of_mem_requiredErrors {s : Subject} {f : Finding} (h : f ∈ requiredErrors s) :
    f.severity = .error := by
  obtain ⟨⟨field, value⟩, _, found⟩ := List.mem_filterMap.1 h
  simp only [Option.ite_none_right_eq_some, Option.some.injEq] at found
  rw [← found.2]
  rfl

theorem severity_of_mem_inferenceNotes {s : Subject} {f : Finding} (h : f ∈ inferenceNotes s) :
    f.severity = .info := by
  obtain ⟨⟨field, value⟩, _, found⟩ := List.mem_filterMap.1 h
  obtain ⟨v, _, rfl⟩ := Option.map_eq_some_iff.1 found
  rfl

/-- The business rules file by severity. -/
def Business.Filed (b : Business) : Prop := Finding.Filed b.errors b.warnings

/-- Errors are errors and warnings are warnings, all with codes of the business rules. -/
structure Business.Sorted (b : Business) : Prop where
  errors : ∀ f ∈ b.errors, f.severity = .error ∧ f.code.stage = .business
  warnings : ∀ f ∈ b.warnings, f.severity = .warning ∧ f.code.stage = .business

theorem Business.Sorted.nothing : Sorted {} := ⟨nofun, nofun⟩

theorem Business.Sorted.error {f : Finding} (h : f.severity = .error ∧ f.code.stage = .business) :
    Sorted { errors := [f] } :=
  ⟨fun _ hf => List.mem_singleton.1 hf ▸ h, nofun⟩

theorem Business.Sorted.warning {f : Finding} (h : f.severity = .warning ∧ f.code.stage = .business) :
    Sorted { warnings := [f] } :=
  ⟨nofun, fun _ hf => List.mem_singleton.1 hf ▸ h⟩

theorem sorted_checkLending (config : Config) (s : Subject) : (checkLending config s).Sorted := by
  unfold checkLending
  dsimp only
  split
  · split
    · exact .error ⟨rfl, rfl⟩
    · split
      · exact .warning ⟨rfl, rfl⟩
      · exact .nothing
  · exact .nothing

theorem sorted_checkBorrowing (config : Config) (s : Subject) : (checkBorrowing config s).Sorted := by
  unfold checkBorrowing
  dsimp only
  split
  · split
    · exact .error ⟨rfl, rfl⟩
    · split
      · exact .warning ⟨rfl, rfl⟩
      · exact .nothing
  · exact .nothing

theorem sorted_checkSwap (config : Config) (s : Subject) : (checkSwap config s).Sorted := by
  unfold checkSwap
  constructor
  · intro f hf
    rcases List.mem_append.1 hf with same | uncovered
    · split at same
      · rw [List.mem_singleton.1 same]
        exact ⟨rfl, rfl⟩
      · cases same
    · split at uncovered
      · split at uncovered
        · rw [List.mem_singleton.1 uncovered]
          exact ⟨rfl, rfl⟩
        · cases uncovered
      · cases uncovered
  · intro f impact
    dsimp only at impact
    split at impact
    · split at impact
      · rw [List.mem_singleton.1 impact]
        exact ⟨rfl, rfl⟩
      · cases impact
    · cases impact

theorem sorted_checkLiquidity (config : Config) (s : Subject) : (checkLiquidity config s).Sorted := by
  unfold checkLiquidity
  split
  · split
    · exact .nothing
    · exact .warning ⟨rfl, rfl⟩
  · exact .nothing

/-- The business rules warn or find errors; they do not inform. -/
theorem sorted_business (config : Config) (s : Subject) : (business config s).Sorted := by
  unfold business
  split
  · exact sorted_checkLending config s
  · exact sorted_checkBorrowing config s
  · exact sorted_checkSwap config s
  · exact sorted_checkLiquidity config s
  · exact .nothing

theorem filed_business (config : Config) (s : Subject) : (business config s).Filed := by
  have sorted := sorted_business config s
  refine ⟨fun f hf => (sorted.errors f hf).1, fun f hf => ?_⟩
  rw [(sorted.warnings f hf).1]
  exact nofun

/-- A review files by severity. -/
theorem filed_review (config : Config) (catalog : Asset.Catalog) (s : Subject) :
    Filed (review config catalog s).errors (review config catalog s).warnings := by
  have required : Filed (requiredErrors s) (inferenceNotes s) := by
    refine ⟨fun f hf => severity_of_mem_requiredErrors hf, fun f hf => ?_⟩
    rw [severity_of_mem_inferenceNotes hf]
    exact nofun
  have rules : Filed (Rule.checkAll catalog s.parameters s.template.rules) [] :=
    .of_errors fun f hf => (Rule.of_mem_checkAll hf).1
  have stages := (required.append rules).append (filed_business config s)
  rw [List.append_nil] at stages
  exact stages

end Review

end Teller
