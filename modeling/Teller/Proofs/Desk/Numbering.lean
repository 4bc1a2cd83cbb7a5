import Teller.Desk.Answering

/-!
# Outcomes up to numbers and notes

Every command gets a number of its own, and the review notes what it takes from the account. Apart
from the number and the notes, an outcome follows from what was reviewed: the entities matter only
through the question that is asked about them.

    process_eq_conclude       an outcome is concluded from what was examined
    unnumbered_conclude       it depends on the number of its command in nothing else
    essence_conclude          it depends on entities and notes in nothing else
-/

namespace Teller

/-- An outcome without the number of its command. -/
def Outcome.unnumbered (o : Outcome) : Outcome :=
  { o with command := o.command.map (·.unnumbered) }

def Finding.isInferenceNote (f : Finding) : Bool :=
  f.severity == .info && f.code == .parameterInferred

/-- Findings without the notes about inferred parameters. -/
def Finding.withoutNotes (findings : List Finding) : List Finding :=
  findings.filter (!·.isInferenceNote)

/-- An outcome without the number of its command and without the notes about inferred parameters. -/
def Outcome.essence (o : Outcome) : Outcome :=
  { o.unnumbered with warnings := Finding.withoutNotes o.warnings }

namespace Desk

/-- The outcome that follows from what was reviewed. -/
def conclude (desk : Desk) (moment : Moment) (number : Nat) (confidence : Float)
    (reviewed : Reviewed) : Except Failure Outcome := do
  let ⟨s, found⟩ := reviewed
  let command ← Command.build desk.commands moment.milliseconds number
    { intent := s.intent, parameters := s.parameters, template := some s.template }
  let command := withMetadata command s.account confidence found.warnings
  return outcomeOf desk s found command

variable (desk : Desk) (moment : Moment) (confidence : Float)

theorem process_eq_conclude (number : Nat) (s : Review.Subject) :
    process desk moment number confidence s =
      conclude desk moment number confidence (examine desk s) := rfl

/-- Hints do not look at entities. -/
theorem questionHints_congr {s s' : Review.Subject} {found found' : Review}
    (intent_eq : s.intent = s'.intent)
    (account_eq : s.account = s'.account) (asks_eq : found.asks = found'.asks)
    (question_eq : found.question = found'.question) :
    questionHints s found = questionHints s' found' := by
  unfold questionHints
  rw [intent_eq, account_eq, asks_eq, question_eq]
  cases found'.asks <;> cases found'.question <;> rfl

/-! ## Notes -/

theorem any_warning_withoutNotes (warnings : List Finding) :
    (Finding.withoutNotes warnings).any (·.severity == .warning) =
      warnings.any (·.severity == .warning) := by
  unfold Finding.withoutNotes
  rw [List.any_filter]
  congr 1
  funext f
  cases h : f.severity <;> simp [Finding.isInferenceNote, h]

/-- What two reviews have in common if they differ only in entities that lead to the same question
and in notes about inferred parameters. -/
structure Reviewed.Alike (x y : Reviewed) : Prop where
  intent_eq : x.subject.intent = y.subject.intent
  parameters_eq : x.subject.parameters = y.subject.parameters
  template_eq : x.subject.template = y.subject.template
  account_eq : x.subject.account = y.subject.account
  errors_eq : x.review.errors = y.review.errors
  warnings_eq : Finding.withoutNotes x.review.warnings = Finding.withoutNotes y.review.warnings
  asks_eq : x.review.asks = y.review.asks
  question_eq : x.review.question = y.review.question
  suggestions_eq : x.review.suggestions = y.review.suggestions

theorem any_warning_congr {warnings warnings' : List Finding}
    (h : Finding.withoutNotes warnings = Finding.withoutNotes warnings') :
    warnings.any (·.severity == .warning) = warnings'.any (·.severity == .warning) := by
  rw [← any_warning_withoutNotes, h, any_warning_withoutNotes]

theorem withMetadata_congr (c : Command) (account : Option Account) {warnings warnings' : List Finding}
    (h : Finding.withoutNotes warnings = Finding.withoutNotes warnings') :
    withMetadata c account confidence warnings = withMetadata c account confidence warnings' := by
  unfold withMetadata
  rw [any_warning_congr h]

theorem essence_outcomeOf (c : Command) (number : Nat) {x y : Reviewed} (h : x.Alike y) :
    (outcomeOf desk x.subject x.review c).essence =
      (outcomeOf desk y.subject y.review { c with number }).essence := by
  have valid_eq : x.review.isValid = y.review.isValid := by
    unfold Review.isValid Review.blocking
    rw [h.errors_eq]
  unfold Outcome.essence Outcome.unnumbered outcomeOf
  dsimp only
  rw [h.intent_eq, h.parameters_eq, h.errors_eq, h.warnings_eq, h.asks_eq, h.question_eq,
    h.suggestions_eq, valid_eq,
    questionHints_congr h.intent_eq h.account_eq h.asks_eq h.question_eq]
  congr 1
  split <;> rfl

/-- Alike reviews lead to the same outcome, up to the number of its command and to notes. -/
theorem essence_conclude {x y : Reviewed} (h : x.Alike y) (number number' : Nat) :
    (conclude desk moment number confidence x).map (·.essence) =
      (conclude desk moment number' confidence y).map (·.essence) := by
  unfold conclude Command.build
  dsimp only
  rw [h.intent_eq, h.parameters_eq, h.template_eq, h.account_eq]
  cases Command.gasOf y.subject.intent y.subject.parameters (some y.subject.template) with
  | error fault => rfl
  | ok gas =>
    refine congrArg Except.ok ?_
    rw [withMetadata_congr confidence _ y.subject.account h.warnings_eq]
    exact essence_outcomeOf desk _ number' h

theorem unnumbered_outcomeOf (s : Review.Subject) (found : Review) (c : Command) (number : Nat) :
    (outcomeOf desk s found c).unnumbered = (outcomeOf desk s found { c with number }).unnumbered := by
  unfold Outcome.unnumbered outcomeOf
  congr 1
  dsimp only
  split <;> rfl

/-- An outcome depends on the number of its command in nothing else. -/
theorem unnumbered_conclude (number number' : Nat) (reviewed : Reviewed) :
    (conclude desk moment number confidence reviewed).map (·.unnumbered) =
      (conclude desk moment number' confidence reviewed).map (·.unnumbered) := by
  obtain ⟨s, found⟩ := reviewed
  unfold conclude Command.build
  dsimp only
  cases Command.gasOf s.intent s.parameters (some s.template) with
  | error fault => rfl
  | ok gas => exact congrArg Except.ok (unnumbered_outcomeOf desk s found _ number')

end Desk

end Teller
