import Mathlib.Data.List.Forall2
import Mathlib.Data.List.ReduceOption
import Teller.Proofs.Careful.Answers

/-!
# Rules are independent

Each rule of a template adds one record to the errors of a review if its field has a value that does
not pass, and none otherwise. What it records is said by the first of its parts that does not pass,
or by the handler of the rule if a part breaks off. So no rule has a say in what another one
records, however it ends, and the errors from two lists of rules are those from the one and those
from the other.

    Verdict                    what the parts of a rule say of a value
    records_iff                a rule records what it finds
    ofRules_review             the errors of a review that come from rules
    rules_are_independent      one record for each rule that does not pass, in the order of the rules
-/

namespace Teller

namespace Rule

/-- What a rule says of the value of its field, as a code and a message: nothing if all of its parts
pass, and else what belongs to the first part that fails or breaks off. -/
inductive Verdict (catalog : Asset.Catalog) (rule : Rule) (value : FieldValue) :
    Option (Finding.Code × String) → Prop
  | passes (h : rule.Holds catalog value) : Verdict catalog rule value none
  | wrongKind (h : rule.kind.fits catalog value = .ok false) :
      Verdict catalog rule value
        (some (.invalidType, s!"Parameter '{rule.field}' must be of type {rule.kind.name}"))
  | failsCheck {check : Check} (fits : rule.kind.fits catalog value = .ok true)
      (has : rule.check = some check) (h : check.passes value = .ok false) :
      Verdict catalog rule value
        (some (.validationFailed, s!"Parameter '{rule.field}' failed validation"))
  | violates {k : Constraints} {message : String} (fits : rule.kind.fits catalog value = .ok true)
      (passed : ∀ check, rule.check = some check → check.passes value = .ok true)
      (has : rule.constraints = some k) (h : k.violation? value = .ok (some message)) :
      Verdict catalog rule value (some (.constraintViolation, message))
  | kindBreaksOff {fault : Fault} (h : rule.kind.fits catalog value = .error fault) :
      Verdict catalog rule value (some (.validationError, s!"Validation error for '{rule.field}'"))
  | checkBreaksOff {check : Check} {fault : Fault} (fits : rule.kind.fits catalog value = .ok true)
      (has : rule.check = some check) (h : check.passes value = .error fault) :
      Verdict catalog rule value (some (.validationError, s!"Validation error for '{rule.field}'"))
  | constraintsBreakOff {k : Constraints} {fault : Fault} (fits : rule.kind.fits catalog value = .ok true)
      (passed : ∀ check, rule.check = some check → check.passes value = .ok true)
      (has : rule.constraints = some k) (h : k.violation? value = .error fault) :
      Verdict catalog rule value (some (.validationError, s!"Validation error for '{rule.field}'"))

/-- What a rule records about parameters: nothing if its field has no value, and else an error about
its field with what it says of the value. -/
inductive Records (catalog : Asset.Catalog) (p : Parameters) (rule : Rule) : Option Finding → Prop
  | unset (h : p.get? rule.field = none) : Records catalog p rule none
  | judged {value : FieldValue} {verdict : Option (Finding.Code × String)}
      (hv : p.get? rule.field = some value) (h : rule.Verdict catalog value verdict) :
      Records catalog p rule (verdict.map fun (code, message) => .error rule.field code message)

section

variable {catalog : Asset.Catalog} {p : Parameters} {rule : Rule} {value : FieldValue}

/-- The finding of a rule, or of its handler. -/
def handled (rule : Rule) (found : Except Fault (Option Finding)) : Option Finding :=
  match found with
  | .ok found => found
  | .error _ => some (.error rule.field .validationError s!"Validation error for '{rule.field}'")

theorem findingIn?_of_get? (hv : p.get? rule.field = some value) :
    findingIn? catalog p rule = rule.handled (finding? catalog rule value) := by
  unfold findingIn?
  rw [hv]
  rfl

/-- A check that passes changes nothing. -/
theorem finding?_withoutCheck
    (passed : ∀ check, rule.check = some check → check.passes value = .ok true) :
    finding? catalog rule value = finding? catalog { rule with check := none } value := by
  unfold finding?
  cases checked : rule.check with
  | none => rfl
  | some check =>
    dsimp only
    rw [passed check checked]
    rfl

/-- If kind and check pass, the constraints decide. -/
theorem finding?_of_passed (fits : rule.kind.fits catalog value = .ok true)
    (passed : ∀ check, rule.check = some check → check.passes value = .ok true) :
    finding? catalog rule value = rule.constraints.elim (.ok none) fun k =>
      (k.violation? value).map (·.map fun message => .error rule.field .constraintViolation message) := by
  rw [finding?_withoutCheck passed]
  unfold finding?
  dsimp only
  rw [fits, ok_bind]
  cases rule.constraints with
  | none => rfl
  | some k =>
    dsimp only [Option.elim]
    cases k.violation? value with
    | error fault => rfl
    | ok violation => cases violation <;> rfl

/-- Every value has a verdict: a part that passes leaves it to the next one. -/
theorem exists_verdict (catalog : Asset.Catalog) (rule : Rule) (value : FieldValue) :
    ∃ verdict, rule.Verdict catalog value verdict := by
  cases fits : rule.kind.fits catalog value with
  | error fault => exact ⟨_, .kindBreaksOff fits⟩
  | ok isOfKind =>
    cases isOfKind with
    | false => exact ⟨_, .wrongKind fits⟩
    | true =>
      by_cases passed : ∀ check, rule.check = some check → check.passes value = .ok true
      · cases has : rule.constraints with
        | none => exact ⟨_, .passes ⟨fits, passed, by rw [has]; exact nofun⟩⟩
        | some k =>
          cases kept : k.violation? value with
          | error fault => exact ⟨_, .constraintsBreakOff fits passed has kept⟩
          | ok violation =>
            cases violation with
            | none => exact ⟨_, .passes ⟨fits, passed, by rw [has]; rintro _ ⟨⟩; exact kept⟩⟩
            | some message => exact ⟨_, .violates fits passed has kept⟩
      · push Not at passed
        obtain ⟨check, has, not_passed⟩ := passed
        cases answer : check.passes value with
        | error fault => exact ⟨_, .checkBreaksOff fits has answer⟩
        | ok passes =>
          cases passes with
          | false => exact ⟨_, .failsCheck fits has answer⟩
          | true => exact absurd answer not_passed

theorem Verdict.handled_eq {verdict : Option (Finding.Code × String)}
    (h : rule.Verdict catalog value verdict) :
    rule.handled (finding? catalog rule value) =
      verdict.map fun (code, message) => .error rule.field code message := by
  cases h with
  | passes h =>
    rw [finding?_of_passed h.fits h.passes]
    cases has : rule.constraints with
    | none => rfl
    | some k =>
      rw [Option.elim_some, h.keeps k has]
      rfl
  | wrongKind h =>
    unfold finding?
    rw [h]
    rfl
  | failsCheck fits has h =>
    unfold finding?
    rw [fits, has, ok_bind]
    dsimp only
    rw [h]
    rfl
  | violates fits passed has h =>
    rw [finding?_of_passed fits passed, has, Option.elim_some, h]
    rfl
  | kindBreaksOff h =>
    unfold finding?
    rw [h]
    rfl
  | checkBreaksOff fits has h =>
    unfold finding?
    rw [fits, has, ok_bind]
    dsimp only
    rw [h]
    rfl
  | constraintsBreakOff fits passed has h =>
    rw [finding?_of_passed fits passed, has, Option.elim_some, h]
    rfl

/-- A rule records what it finds. -/
theorem records_iff {record : Option Finding} :
    Records catalog p rule record ↔ findingIn? catalog p rule = record := by
  constructor
  · rintro (unset | ⟨hv, h⟩)
    · unfold findingIn?
      rw [unset]
    · rw [findingIn?_of_get? hv, h.handled_eq]
  · rintro rfl
    cases hv : p.get? rule.field with
    | none =>
      unfold findingIn?
      rw [hv]
      exact .unset hv
    | some value =>
      obtain ⟨verdict, h⟩ := exists_verdict catalog rule value
      rw [findingIn?_of_get? hv, h.handled_eq]
      exact .judged hv h

theorem stage_of_mem_checkAll {rules : List Rule} {f : Finding} (h : f ∈ checkAll catalog p rules) :
    f.code.stage = .rules := by
  obtain ⟨rule, _, found⟩ := List.mem_filterMap.1 h
  generalize hr : some f = record at found
  cases records_iff.2 found with
  | unset => cases hr
  | judged _ verdict =>
    cases verdict with
    | passes => cases hr
    | wrongKind | failsCheck | violates | kindBreaksOff | checkBreaksOff | constraintsBreakOff =>
      cases hr
      rfl

end

end Rule

namespace Review

def Subject.withRules (s : Subject) (rules : List Rule) : Subject :=
  { s with template := { s.template with rules } }

/-- The errors that come from the rules of the template. -/
def ofRules (r : Review) : List Finding := r.errors.filter (·.code.stage = .rules)

theorem stage_of_mem_requiredErrors {s : Subject} {f : Finding} (h : f ∈ requiredErrors s) :
    f.code.stage = .required := by
  obtain ⟨⟨field, value⟩, _, found⟩ := List.mem_filterMap.1 h
  simp only [Option.ite_none_right_eq_some, Option.some.injEq] at found
  rw [← found.2]
  rfl

/-- The errors of a review that come from rules are what the rules record. -/
theorem ofRules_review (config : Config) (catalog : Asset.Catalog) (s : Subject) :
    (review config catalog s).ofRules = Rule.checkAll catalog s.parameters s.template.rules := by
  have required : (requiredErrors s).filter (·.code.stage = .rules) = [] := by
    rw [List.filter_eq_nil_iff]
    intro f hf
    rw [stage_of_mem_requiredErrors hf]
    decide
  have rules : (Rule.checkAll catalog s.parameters s.template.rules).filter (·.code.stage = .rules) =
      Rule.checkAll catalog s.parameters s.template.rules := by
    rw [List.filter_eq_self]
    exact fun f hf => decide_eq_true (Rule.stage_of_mem_checkAll hf)
  have business : (business config s).errors.filter (·.code.stage = .rules) = [] := by
    rw [List.filter_eq_nil_iff]
    intro f hf
    rw [((sorted_business config s).errors f hf).2]
    decide
  unfold ofRules review
  rw [List.filter_append, List.filter_append, required, rules, business, List.nil_append,
    List.append_nil]

/-- A review is carried out, and the errors that come from rules are one record for each rule that
does not pass, in the order of the rules. What a rule records does not depend on the rules before
and behind it, be it that it cannot be carried out, so two lists of rules record together what each
of them records. -/
theorem rules_are_independent (config : Config) (catalog : Asset.Catalog) (s : Subject)
    (recognised : s.IsRecognised) :
    Careful.review config catalog s = .ok (review config catalog s) ∧
    (∃ records, List.Forall₂ (Rule.Records catalog s.parameters) s.template.rules records ∧
      (review config catalog s).ofRules = records.reduceOption) ∧
    (∀ before rule behind record, Rule.Records catalog s.parameters rule record →
      (review config catalog (s.withRules (before ++ rule :: behind))).ofRules =
        (review config catalog (s.withRules before)).ofRules ++ record.toList ++
          (review config catalog (s.withRules behind)).ofRules) ∧
    ∀ first second, (review config catalog (s.withRules (first ++ second))).ofRules =
      (review config catalog (s.withRules first)).ofRules ++
        (review config catalog (s.withRules second)).ofRules := by
  have together (first second : List Rule) :
      (review config catalog (s.withRules (first ++ second))).ofRules =
        (review config catalog (s.withRules first)).ofRules ++
          (review config catalog (s.withRules second)).ofRules := by
    rw [ofRules_review, ofRules_review, ofRules_review]
    exact List.filterMap_append
  refine ⟨Careful.review_eq_ok config catalog recognised, ?_, ?_, together⟩
  · refine ⟨s.template.rules.map (Rule.findingIn? catalog s.parameters), ?_, ?_⟩
    · rw [List.forall₂_map_right_iff, List.forall₂_same]
      exact fun rule _ => Rule.records_iff.2 rfl
    · rw [ofRules_review, List.reduceOption, List.filterMap_map]
      rfl
  · intro before rule behind record records
    have single : (review config catalog (s.withRules [rule])).ofRules = record.toList := by
      have found := Rule.records_iff.1 records
      rw [ofRules_review]
      cases record with
      | none => exact List.filterMap_cons_none found
      | some f => exact List.filterMap_cons_some found
    rw [← List.singleton_append, together, together, single, List.append_assoc]

/-- A rule whose pattern is not well formed. -/
def malformedRule : Rule where
  field := "token"
  kind := .string
  constraints := some { pattern := some (.ofPattern "(") }

/-- To lend less than the least amount at a place that is not known. -/
def lendCrumbs : Subject where
  intent := .lend
  parameters := { primary := {
    amount := some "0.001", token := some "USDC", protocol := some "uniswap" } }
  template := { intent := .lend, action := "supply", required := [] }

/-- A rule that breaks off between two rules that fail. -/
theorem malformedRule_independent :
    lendCrumbs.IsRecognised ∧
    ∃ f, Rule.Records .standard lendCrumbs.parameters malformedRule (some f) ∧
      f.code = .validationError ∧
      (review {} .standard (lendCrumbs.withRules
        ([Template.amountRule] ++ malformedRule :: [Template.protocolRule]))).ofRules =
        (review {} .standard (lendCrumbs.withRules [Template.amountRule])).ofRules ++ [f] ++
          (review {} .standard (lendCrumbs.withRules [Template.protocolRule])).ofRules := by
  have recognised : lendCrumbs.IsRecognised := nofun
  have token : lendCrumbs.parameters.get? malformedRule.field = some (FieldValue.text "USDC") := rfl
  have recorded : Rule.Records .standard lendCrumbs.parameters malformedRule
      (some (.error "token" .validationError "Validation error for 'token'")) :=
    .judged token (.constraintsBreakOff rfl (by rintro _ ⟨⟩) rfl rfl)
  exact ⟨recognised, _, recorded, rfl,
    (rules_are_independent {} .standard lendCrumbs recognised).2.2.1 _ _ _ _ recorded⟩

end Review

end Teller
