import Teller.Proofs.Desk.Examination
import Teller.Proofs.Desk.Numbering
import Teller.Proofs.Desk.RiskGate

/-!
# Reviews that are alike

Entities matter to a review through its question alone. If nothing but a risk can be ambiguous, the
question looks only at the first amount and at how high the first leverage is. So subjects that
differ in entities are reviewed alike, up to notes, if their entities tell the same amount and
leverages that are above the same bounds.

    withoutNotes_examine            the warnings, but for notes, are those of the business rules
    alike_examine                   entities matter through the question alone
    any_above_of_readsBack          a number that reads back is above the same bounds
    openQuestion?_congr_of_risk     what the question about a risk looks at
-/

namespace Teller

/-! ## Reviews of subjects that differ in entities -/

namespace Review

variable {config : Config} {s : Subject} {f : Finding}

theorem isInferenceNote_of_mem_inferenceNotes (h : f ∈ inferenceNotes s) :
    f.isInferenceNote = true := by
  obtain ⟨⟨field, value⟩, _, found⟩ := List.mem_filterMap.1 h
  obtain ⟨v, _, rfl⟩ := Option.map_eq_some_iff.1 found
  rfl

theorem not_isInferenceNote_of_business (h : f ∈ (business config s).warnings) :
    f.isInferenceNote = false := by
  rw [Finding.isInferenceNote, ((sorted_business config s).warnings f h).1]
  rfl

/-- What a review finds, but for its question, does not depend on entities. -/
theorem review_congr (config : Config) (catalog : Asset.Catalog) {s s' : Subject}
    (intent_eq : s.intent = s'.intent) (parameters_eq : s.parameters = s'.parameters)
    (template_eq : s.template = s'.template) (account_eq : s.account = s'.account) :
    (review config catalog s).errors = (review config catalog s').errors ∧
      (business config s).warnings = (business config s').warnings ∧
      (review config catalog s).suggestions = (review config catalog s').suggestions := by
  obtain ⟨intent, parameters, template, account, entities⟩ := s
  obtain ⟨intent', parameters', template', account', entities'⟩ := s'
  cases intent_eq
  cases parameters_eq
  cases template_eq
  cases account_eq
  exact ⟨rfl, rfl, rfl⟩

end Review

theorem Finding.withoutNotes_append (findings others : List Finding) :
    withoutNotes (findings ++ others) = withoutNotes findings ++ withoutNotes others :=
  List.filter_append ..

namespace Desk

open Ambiguity Review

variable (desk : Desk)

/-- Without the notes, an examined subject is warned of by the business rules alone. -/
theorem withoutNotes_examine (s : Subject) : Finding.withoutNotes (examine desk s).review.warnings =
    (business desk.reviews (examine desk s).subject).warnings := by
  have reviewed : ∀ s' : Subject, Finding.withoutNotes (review desk.reviews desk.catalog s').warnings =
      (business desk.reviews s').warnings := by
    intro s'
    show Finding.withoutNotes (inferenceNotes s' ++ (business desk.reviews s').warnings) = _
    rw [Finding.withoutNotes_append, Finding.withoutNotes, List.filter_eq_nil_iff.2, List.nil_append,
      Finding.withoutNotes, List.filter_eq_self]
    · intro f hf
      rw [not_isInferenceNote_of_business hf]
      rfl
    · intro f hf
      rw [isInferenceNote_of_mem_inferenceNotes hf]
      exact Bool.false_ne_true
  rcases examine_cases desk s with ⟨_, h⟩ | ⟨_, _, h⟩
  · rw [h]
    exact reviewed s
  · rw [h, Finding.withoutNotes_append, reviewed, Finding.withoutNotes, List.filter_eq_nil_iff.2,
      List.nil_append]
    intro f hf
    obtain ⟨mem, informs⟩ := List.mem_filter.1 hf
    rcases List.mem_append.1 mem with note | warning
    · rw [isInferenceNote_of_mem_inferenceNotes note]
      exact Bool.false_ne_true
    · rw [((sorted_business _ _).warnings _ warning).1] at informs
      cases informs

theorem suggestions_examine (s : Subject) : (examine desk s).review.suggestions =
    (review desk.reviews desk.catalog (examine desk s).subject).suggestions := by
  rcases examine_cases desk s with ⟨_, h⟩ | ⟨_, _, h⟩ <;> rw [h]

/-- Examined subjects that differ in entities, but lead to the same question, are reviewed alike. -/
theorem alike_examine {s s' : Subject}
    (intent_eq : (examine desk s).subject.intent = (examine desk s').subject.intent)
    (parameters_eq : (examine desk s).subject.parameters = (examine desk s').subject.parameters)
    (template_eq : (examine desk s).subject.template = (examine desk s').subject.template)
    (account_eq : (examine desk s).subject.account = (examine desk s').subject.account)
    (question_eq : openQuestion? (examine desk s).subject = openQuestion? (examine desk s').subject) :
    (examine desk s).Alike (examine desk s') := by
  obtain ⟨errors_eq, business_eq, suggestions_eq⟩ :=
    review_congr desk.reviews desk.catalog intent_eq parameters_eq template_eq account_eq
  refine ⟨intent_eq, parameters_eq, template_eq, account_eq, ?_, ?_, ?_, ?_, ?_⟩
  · rw [errors_examine, errors_examine, errors_eq]
  · rw [withoutNotes_examine, withoutNotes_examine, business_eq]
  · rw [asks_examine, asks_examine, question_examine, question_examine, question_eq]
  · rw [question_examine, question_examine, question_eq]
  · rw [suggestions_examine, suggestions_examine, suggestions_eq]

end Desk

/-! ## Questions about a risk -/

theorem Number.ReadsBack.above_iff {x y : Float} (same : y = x ∨ (y == x) = true) (bound : Float) :
    bound < y ↔ bound < x := by
  rcases same with rfl | same
  · exact Iff.rfl
  · exact ⟨fun above => lt_of_lt_of_beq above (beq_symm same), fun above => lt_of_lt_of_beq above same⟩

/-- A number that reads back is above the same bounds when it is read back. -/
theorem Number.any_above_of_readsBack {number : Option Float}
    (h : ∀ x, number = some x → ReadsBack x) (bound : Float) :
    (number.bind fun x => read? (plain x)).any (bound < ·) = number.any (bound < ·) := by
  cases number with
  | none => rfl
  | some x =>
    obtain ⟨y, hy, same⟩ := h x rfl
    rw [Option.bind_some, hy]
    exact decide_eq_decide.2 (ReadsBack.above_iff same bound)

namespace Question

open Ambiguity

variable {i i' : Inquiry}

theorem leverage_reducedRisk (i : Inquiry) : (reducedRisk i).leverage =
    if (firstNumber? .leverage i.entities).any (2 < ·) then some (some 2) else none := by
  unfold reducedRisk
  dsimp only
  cases firstNumber? .leverage i.entities with
  | none => rfl
  | some x => by_cases high : 2 < x <;> simp [high]

/-- The question about a risk looks at the first amount and at how high the first leverage is. -/
theorem riskConfirmation_congr
    (amount_eq : firstNumber? .amount i.entities = firstNumber? .amount i'.entities)
    (leverage_eq : (firstNumber? .leverage i.entities).any (2 < ·) =
      (firstNumber? .leverage i'.entities).any (2 < ·)) :
    riskConfirmation i = riskConfirmation i' := by
  have reduced : reducedRisk i = reducedRisk i' := by
    have amounts : (reducedRisk i).amount = (reducedRisk i').amount := by
      unfold reducedRisk
      rw [amount_eq]
    have leverages : (reducedRisk i).leverage = (reducedRisk i').leverage := by
      rw [leverage_reducedRisk, leverage_reducedRisk, leverage_eq]
    calc reducedRisk i
        = { amount := (reducedRisk i).amount, leverage := (reducedRisk i).leverage } := rfl
      _ = { amount := (reducedRisk i').amount, leverage := (reducedRisk i').leverage } := by
          rw [amounts, leverages]
      _ = reducedRisk i' := rfl
  unfold riskConfirmation
  rw [reduced]

end Question

namespace Review

open Ambiguity

/-- If nothing but a risk can be ambiguous, the question is about the risk. -/
theorem openQuestion?_of_risk {s : Subject} (h : ∀ a ∈ ambiguities s, a = .riskConfirmation) :
    openQuestion? s = if s.applies .riskConfirmation = true then
      some (Question.riskConfirmation (inquiry s)) else none := by
  by_cases applies : s.applies .riskConfirmation = true
  · have mem : .riskConfirmation ∈ ambiguities s :=
      (mem_ambiguities s _).2 ⟨applies, fun direction => nomatch direction.1⟩
    have most : mostUrgent? (ambiguities s) = some .riskConfirmation := by
      rw [mostUrgent?_eq_some_iff]
      exact ⟨nofun, mem, fun b hb => Nat.le_of_eq (congrArg priority (h b hb))⟩
    rw [if_pos applies, openQuestion?_eq_some_iff]
    exact ⟨List.ne_nil_of_mem mem, (Question.ask_eq_about? (i := inquiry s) most).trans rfl⟩
  · rw [if_neg applies, openQuestion?_eq_none_iff, List.eq_nil_iff_forall_not_mem]
    intro a ha
    have risk := h a ha
    subst risk
    exact applies (applies_of_mem_ambiguities ha)

/-- Subjects about which nothing but a risk can be ambiguous lead to the same question if their
entities tell the same amount and leverages that are alike. -/
theorem openQuestion?_congr_of_risk {s s' : Subject}
    (h : ∀ a ∈ ambiguities s, a = .riskConfirmation) (h' : ∀ a ∈ ambiguities s', a = .riskConfirmation)
    (intent_eq : s.intent = s'.intent) (tuning_eq : s.parameters.tuning = s'.parameters.tuning)
    (amount_eq : firstNumber? .amount s.allEntities = firstNumber? .amount s'.allEntities)
    (leverage_eq : ∀ bound : Float, (firstNumber? .leverage s.allEntities).any (bound < ·) =
      (firstNumber? .leverage s'.allEntities).any (bound < ·)) :
    openQuestion? s = openQuestion? s' := by
  have applies_eq : s.applies .riskConfirmation = s'.applies .riskConfirmation := by
    show (!_ && needsConfirmation _ _) = (!_ && needsConfirmation _ _)
    unfold needsConfirmation
    rw [intent_eq, tuning_eq, amount_eq, leverage_eq 5]
  have question_eq :
      Question.riskConfirmation (inquiry s) = Question.riskConfirmation (inquiry s') :=
    Question.riskConfirmation_congr amount_eq (leverage_eq 2)
  rw [openQuestion?_of_risk h, openQuestion?_of_risk h', applies_eq, question_eq]

end Review

end Teller
