import Teller.Proofs.Careful.Answers
import Teller.Proofs.Validation.Checking

/-!
# What the desk refuses

A desk fails only if it refuses. It refuses a request whose intent is clear but has no template, and
an answer that is not offered, that cancels, or that leads to such an intent. Nothing else goes
wrong: the desk answers as it does with care, so that no handler of a stage is ever called upon, and
among the findings that it reports none says that validation itself went wrong.

    parse_eq_error_iff            when a request is refused
    resolve_eq_error_iff          when an answer is refused
    code_of_gives                 no finding is about the validation
    fails_only_if_refused         a desk fails only if it refuses
-/

namespace Teller

/-- Why a request is refused: its intent is clear but has no template. -/
inductive Request.Refused (r : Request) : Failure → Prop
  | unsupported (clear : r.intent ≠ .unknown) (none : Template.of? r.intent = none) :
      Refused r (Desk.notSupported r.intent)

/-- Why an answer is refused: its choice is not offered, or cancels, or has an intent without a
template. -/
inductive Reply.Refused (r : Reply) : Failure → Prop
  | notOffered (missing : r.question.find? r.choice = none) :
      Refused r (r.question.invalidChoice r.choice)
  | cancels (choice : Choice) (found : r.question.find? r.choice = some choice)
      (cancel : r.choice = Question.cancelId) : Refused r (Desk.cancelled r.choice)
  | unsupported (choice : Choice) (found : r.question.find? r.choice = some choice)
      (proceeds : r.choice ≠ Question.cancelId)
      (none : Template.of? (Desk.chosenIntent r choice) = none) :
      Refused r (Desk.notSupported (Desk.chosenIntent r choice))

theorem Request.Refused.code_eq {r : Request} {f : Failure} (h : r.Refused f) :
    f.code = .templateNotFound := by
  cases h
  rfl

theorem Reply.Refused.code_mem {r : Reply} {f : Failure} (h : r.Refused f) :
    f.code ∈ [.operationCancelled, .invalidOption, .templateNotFound] := by
  cases h with
  | notOffered => exact List.mem_cons_of_mem _ List.mem_cons_self
  | cancels => exact List.mem_cons_self
  | unsupported => exact List.mem_cons_of_mem _ (List.mem_cons_of_mem _ List.mem_cons_self)

namespace Desk

open Review

section

variable (desk : Desk) (moment : Moment) (number : Nat)

theorem parse_eq_error_iff (r : Request) (f : Failure) :
    parse desk moment number r = .error f ↔ r.Refused f := by
  constructor
  · intro failed
    by_cases unclear : r.intent = .unknown
    · obtain ⟨o, asked⟩ := exists_clarify_eq_ok desk moment
        (normalize desk r.entities r.account) r.account
      unfold parse at failed
      dsimp only at failed
      rw [if_pos unclear, asked] at failed
      cases failed
    · cases ht : Template.of? r.intent with
      | none =>
        rw [parse_unsupported desk moment number r unclear ht] at failed
        cases failed
        exact .unsupported unclear ht
      | some t =>
        obtain ⟨o, answered⟩ := exists_parse_eq_ok desk moment number ht
        rw [answered] at failed
        cases failed
  · rintro ⟨clear, none⟩
    exact parse_unsupported desk moment number r clear none

theorem resolve_eq_error_iff (r : Reply) (f : Failure) :
    resolve desk moment number r = .error f ↔ r.Refused f := by
  constructor
  · intro failed
    cases found : r.question.find? r.choice with
    | none =>
      rw [resolve_eq, found] at failed
      cases failed
      exact .notOffered found
    | some choice =>
      by_cases cancel : r.choice = Question.cancelId
      · rw [resolve_cancel desk moment number r cancel (by rw [found]; rfl)] at failed
        cases failed
        exact .cancels choice found cancel
      · cases ht : Template.of? (chosenIntent r choice) with
        | none =>
          rw [resolve_eq, found] at failed
          dsimp only at failed
          rw [if_neg cancel, ht] at failed
          cases failed
          exact .unsupported choice found cancel ht
        | some t =>
          obtain ⟨o, answered⟩ := exists_resolve_eq_ok desk moment number found cancel ht
          rw [answered] at failed
          cases failed
  · intro refused
    rw [resolve_eq]
    cases refused with
    | notOffered missing => rw [missing]
    | cancels choice found cancel =>
      rw [found]
      exact if_pos cancel
    | unsupported choice found proceeds none =>
      rw [found]
      dsimp only
      rw [if_neg proceeds, none]

end

/-! ## Findings -/

theorem code_of_examine (desk : Desk) {s : Subject} (known : s.template ∈ Template.all) :
    ∀ f ∈ (examine desk s).review.errors ++ (examine desk s).review.warnings,
      f.code ≠ .validationError := by
  have first := code_of_review desk.reviews desk.catalog known
  have second := code_of_review desk.reviews desk.catalog
    (s := (examine desk s).subject) (by rw [template_examine]; exact known)
  intro f hf
  rcases List.mem_append.1 hf with error | warning
  · rw [errors_examine] at error
    exact second.1 f error
  · rcases examine_cases desk s with ⟨_, h⟩ | ⟨_, _, h⟩
    · rw [h] at warning
      exact first.2 f warning
    · rw [h] at warning
      rcases List.mem_append.1 warning with note | warning
      · exact first.2 f (List.mem_filter.1 note).1
      · exact second.2 f warning

/-- No finding of an outcome is about the validation. -/
theorem code_of_gives {desk : Desk} {o : Outcome} (h : Gives desk o) :
    ∀ f ∈ o.errors ++ o.warnings, f.code ≠ .validationError := by
  rcases h.reports with clarifies | ⟨s, posed, reports⟩
  · rw [clarifies.errors_eq, clarifies.warnings_eq]
    exact nofun
  · rw [reports.errors_eq, reports.warnings_eq]
    exact code_of_examine desk (Template.of?_eq_some posed.template_eq).1

/-! ## Failures -/

/-- A desk fails only if it refuses. Its answers are those given with care, in which no handler of a
stage is called upon; every failure is a refusal, with its code; and no finding is about the
validation. -/
theorem fails_only_if_refused (desk : Desk) (moment : Moment) (number : Nat) :
    (∀ r : Request, (∀ e ∈ r.entities, e.IsRecognised) →
      Careful.parse desk moment number r = .ok (parse desk moment number r) ∧
      (∀ f, parse desk moment number r = .error f ↔ r.Refused f) ∧
      ∀ f, parse desk moment number r = .error f → f.code = .templateNotFound) ∧
    (∀ r : Reply,
      Careful.resolve desk moment number r = .ok (resolve desk moment number r) ∧
      (∀ f, resolve desk moment number r = .error f ↔ r.Refused f) ∧
      ∀ f, resolve desk moment number r = .error f →
        f.code ∈ [.operationCancelled, .invalidOption, .templateNotFound]) ∧
    ∀ o, Gives desk o → ∀ f ∈ o.errors ++ o.warnings, f.code ≠ .validationError := by
  refine ⟨?_, ?_, fun o gives => code_of_gives gives⟩
  · intro r recognised
    have refused := parse_eq_error_iff desk moment number r
    exact ⟨Careful.parse_eq desk moment number recognised, refused,
      fun f failed => ((refused f).1 failed).code_eq⟩
  · intro r
    have refused := resolve_eq_error_iff desk moment number r
    exact ⟨Careful.resolve_eq desk moment number r, refused,
      fun f failed => ((refused f).1 failed).code_mem⟩

/-- A wish to lend one of two amounts, each of them recognised with some doubt. -/
def lendOneOfTwo : Request where
  intent := .lend
  entities := [{ kind := .amount, value := "100", normalized := "100", confidence := 0.9 },
    { kind := .amount, value := "200", normalized := "200", confidence := 0.4 }]

/-- The wish is answered, with care or without; a request for help is refused. -/
theorem lendOneOfTwo_not_refused :
    (∀ e ∈ lendOneOfTwo.entities, e.IsRecognised) ∧
      (∃ o, parse {} ⟨0, 0⟩ 0 lendOneOfTwo = .ok o ∧
        Careful.parse {} ⟨0, 0⟩ 0 lendOneOfTwo = .ok (.ok o)) ∧
      ∃ f, parse {} ⟨0, 0⟩ 0 { intent := .help } = .error f ∧ f.code = .templateNotFound := by
  have recognised : ∀ e ∈ lendOneOfTwo.entities, e.IsRecognised := by
    have all_recognised : lendOneOfTwo.entities.all (isConfidence ·.confidence) = true := by
      decide +kernel
    exact List.all_eq_true.1 all_recognised
  obtain ⟨requests, _⟩ := fails_only_if_refused {} ⟨0, 0⟩ 0
  refine ⟨recognised, ?_, ?_⟩
  · obtain ⟨careful, refused, _⟩ := requests lendOneOfTwo recognised
    cases answer : parse {} ⟨0, 0⟩ 0 lendOneOfTwo with
    | ok o => exact ⟨o, rfl, careful.trans (congrArg Except.ok answer)⟩
    | error f =>
      obtain ⟨_, none⟩ := (refused f).1 answer
      exact absurd none (by decide)
  · obtain ⟨_, refused, coded⟩ := requests { intent := .help } nofun
    have failed := (refused _).2 (.unsupported (by decide) (by decide))
    exact ⟨_, failed, coded _ failed⟩

end Desk

end Teller
