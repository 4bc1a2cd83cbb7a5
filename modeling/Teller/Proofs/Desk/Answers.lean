import Teller.Proofs.Desk.Examination

/-!
# Where outcomes come from

An outcome of the desk either asks what the user wants or reports on an examined subject. The
subject of a request has the parameters that its entities state; the subject of an answered question
has the revised parameters and no entities of its own. An outcome that hands out a command reports
on a subject without errors and without ambiguities.

    process_eq_ok       an outcome reports on the examined subject
    parse_eq_ok         where the answer to a request comes from
    resolve_eq          how an answer is resolved
    resolve_eq_process  how an answer that keeps to the intent is resolved
    resolve_eq_ok       where the answer to an answered question comes from
    posed_requested, posed_replied
                        entities and parameters of a subject agree
    Gives.reports       where any outcome comes from
    resolve_cancel_ne_ok
                        to cancel has no outcome
    Reports.stages_eq_nil, Reports.holds
                        what the review has found true of a command
    exists_command_of_any, exists_command_stating
                        an answer with a command that passes a check
-/

namespace Teller

/-- An outcome that reports on a reviewed subject. -/
structure Outcome.Reports (o : Outcome) (r : Desk.Reviewed) : Prop where
  intent_eq : o.intent = r.subject.intent
  parameters_eq : o.parameters = r.subject.parameters
  errors_eq : o.errors = r.review.errors
  warnings_eq : o.warnings = r.review.warnings
  asks_eq : o.asks = r.review.asks
  question_eq : o.question = r.review.question
  command_isSome : o.command.isSome ↔ r.review.isValid ∧ r.review.asks = false
  of_command : ∀ c, o.command = some c → c.intent = o.intent ∧ c.parameters = o.parameters

/-- A subject as the desk poses it: with the template of its intent, and with entities that tell its
amount and whether it has a protocol. -/
structure Review.Subject.Posed (s : Review.Subject) : Prop where
  template_eq : Template.of? s.intent = some s.template
  amount_eq : Ambiguity.firstNumber? .amount s.allEntities =
    s.parameters.primary.amount.bind Number.read?
  protocol_isSome : Ambiguity.namesProtocol s.allEntities = true →
    s.parameters.primary.protocol.isSome

/-- An outcome that only asks what the user wants. -/
structure Outcome.Clarifies (o : Outcome) : Prop where
  intent_eq : o.intent = .unknown
  command_eq : o.command = none
  errors_eq : o.errors = []
  warnings_eq : o.warnings = []
  asks_eq : o.asks = true
  question_eq : ∃ q, Question.unclearIntent = .ok q ∧ o.question = some q

namespace Desk

open Review

/-- The subject of a request whose intent has a template. -/
def requested (desk : Desk) (moment : Moment) (r : Request) (t : Template) : Subject where
  intent := r.intent
  parameters :=
    extract desk moment r.intent (some t) r.account (normalize desk r.entities r.account)
  template := t
  account := r.account
  entities := some (normalize desk r.entities r.account)

def chosenIntent (r : Reply) (choice : Choice) : Intent := choice.intent.getD r.intent

def replied (desk : Desk) (r : Reply) (choice : Choice) (t : Template) : Subject where
  intent := chosenIntent r choice
  parameters := estimated desk (chosenIntent r choice) (some t) r.account
    (r.parameters.revise choice.revision)
  template := t
  account := r.account

/-- A request whose intent has a template is processed as it was requested. -/
theorem parse_eq_process (desk : Desk) (moment : Moment) (number : Nat) {r : Request} {t : Template}
    (ht : Template.of? r.intent = some t) : parse desk moment number r =
      process desk moment number r.confidence (requested desk moment r t) := by
  have known : r.intent ≠ .unknown := by
    intro unknown
    rw [unknown, Template.of?_unknown] at ht
    cases ht
  unfold parse
  dsimp only
  rw [if_neg known, ht]
  rfl

/-- How an answer is resolved: the choice is looked up, to cancel is a failure, and whatever else
was chosen is carried out if its intent has a template. -/
theorem resolve_eq (desk : Desk) (moment : Moment) (number : Nat) (r : Reply) :
    resolve desk moment number r =
      match r.question.find? r.choice with
      | none => .error (r.question.invalidChoice r.choice)
      | some choice =>
        if r.choice = Question.cancelId then .error (cancelled r.choice)
        else
          match Template.of? (chosenIntent r choice) with
          | none => .error (notSupported (chosenIntent r choice))
          | some t => process desk moment number r.confidence (replied desk r choice t) := by
  unfold resolve Question.answer
  cases found : r.question.find? r.choice with
  | none => simp [bind, Except.bind]
  | some choice =>
    by_cases cancels : r.choice = Question.cancelId
    · simp [cancels, throw, throwThe, MonadExceptOf.throw, bind, Except.bind]
    · simp only [cancels, decide_false, Bool.false_and, Bool.false_eq_true, if_false, Option.bind_some,
        bind, Except.bind]
      rfl

/-! ## Success of each step -/

theorem build_eq_ok {config : Command.Config} {time : Int} {number : Nat} {order : Command.Order}
    {c : Command} (h : Command.build config time number order = .ok c) :
    c.intent = order.intent ∧ c.parameters = order.parameters := by
  obtain ⟨gas, -, rfl⟩ := Command.build_eq_ok_iff.1 h
  exact ⟨rfl, rfl⟩

/-- An outcome reports on the examined subject. -/
theorem process_eq_ok {desk : Desk} {moment : Moment} {number : Nat} {confidence : Float}
    {s : Subject} {o : Outcome} (h : process desk moment number confidence s = .ok o) :
    o.Reports (examine desk s) := by
  obtain ⟨c, built, ho⟩ := bind_eq_ok h
  obtain ⟨intent_eq, parameters_eq⟩ := build_eq_ok built
  cases ho
  refine ⟨rfl, rfl, rfl, rfl, rfl, rfl, command_outcomeOf_isSome_iff .., ?_⟩
  intro c' hc'
  -- the builder keeps to its order, and metadata leave intent and parameters as they are
  rw [of_command_outcomeOf _ _ _ _ hc']
  exact ⟨intent_eq, parameters_eq⟩

theorem mostUrgent?_detect_unknown (entities : List Entity) (account : Option Account) :
    Ambiguity.mostUrgent? (Ambiguity.detect .unknown entities account false) =
      some .unclearIntent := by
  rw [Ambiguity.mostUrgent?_eq_some_iff]
  refine ⟨by decide, (Ambiguity.mem_detect ..).2 rfl, fun b _ => ?_⟩
  cases b <;> decide

theorem clarify_eq_ok {desk : Desk} {moment : Moment} {entities : List Entity}
    {account : Option Account} {o : Outcome} (h : clarify desk moment entities account = .ok o) :
    o.Clarifies ∧ o.parameters = extract desk moment .unknown none account entities := by
  obtain ⟨q, asked, ho⟩ := bind_eq_ok h
  cases ho
  rw [mapError_eq_ok_iff] at asked
  obtain ⟨a, ha, about⟩ := Question.ask_eq_ok asked
  rw [mostUrgent?_detect_unknown] at ha
  cases ha
  rw [Question.about?, mapError_eq_ok_iff] at about
  exact ⟨⟨rfl, rfl, rfl, rfl, rfl, q, about, rfl⟩, rfl⟩

/-- The answer to a request asks what the user wants, or reports on what was requested. -/
theorem parse_eq_ok {desk : Desk} {moment : Moment} {number : Nat} {r : Request} {o : Outcome}
    (h : parse desk moment number r = .ok o) :
    (r.intent = .unknown ∧ o.Clarifies ∧ o.parameters =
      extract desk moment .unknown none r.account (normalize desk r.entities r.account)) ∨
    ∃ t, Template.of? r.intent = some t ∧ o.Reports (examine desk (requested desk moment r t)) := by
  unfold parse at h
  dsimp only at h
  split at h
  · next unknown => exact .inl ⟨unknown, clarify_eq_ok h⟩
  · split at h
    · cases h
    · next t ht => exact .inr ⟨t, ht, process_eq_ok h⟩

/-- The answer to an answered question reports on what was replied. -/
theorem resolve_eq_ok {desk : Desk} {moment : Moment} {number : Nat} {r : Reply} {o : Outcome}
    (h : resolve desk moment number r = .ok o) :
    ∃ choice t, r.question.find? r.choice = some choice ∧ r.choice ≠ Question.cancelId ∧
      Template.of? (chosenIntent r choice) = some t ∧
      o.Reports (examine desk (replied desk r choice t)) := by
  rw [resolve_eq] at h
  split at h
  · cases h
  · next choice found =>
    split at h
    · cases h
    · next proceeds =>
      split at h
      · cases h
      · next t ht => exact ⟨choice, t, found, proceeds, ht, process_eq_ok h⟩

/-- To cancel has no outcome. -/
theorem resolve_cancel_ne_ok (desk : Desk) (moment : Moment) (number : Nat) (r : Reply)
    (h : r.choice = Question.cancelId) (o : Outcome) : resolve desk moment number r ≠ .ok o := by
  intro ho
  obtain ⟨_, _, _, other, _⟩ := resolve_eq_ok ho
  exact other h

/-! ## Subjects as the desk poses them -/

theorem firstNumber?_eq_bind_firstText? (kind : Entity.Kind) (entities : List Entity) :
    Ambiguity.firstNumber? kind entities = (firstText? kind entities).bind Number.read? := by
  unfold Ambiguity.firstNumber? firstText?
  rw [Option.bind_map]
  rfl

theorem allEntities_requested (desk : Desk) (moment : Moment) (r : Request) (t : Template) :
    (requested desk moment r t).allEntities = normalize desk r.entities r.account := rfl

theorem posed_requested (desk : Desk) (moment : Moment) {r : Request} {t : Template}
    (ht : Template.of? r.intent = some t) : (requested desk moment r t).Posed where
  template_eq := ht
  amount_eq := firstNumber?_eq_bind_firstText? .amount _
  protocol_isSome := by
    rw [allEntities_requested]
    show _ → (firstText? .protocol (normalize desk r.entities r.account)).isSome
    unfold Ambiguity.namesProtocol firstText?
    cases Entity.ofKind .protocol (normalize desk r.entities r.account) with
    | nil => exact nofun
    | cons e es => exact fun _ => rfl

/-- After examination the entities still tell the amount. -/
theorem amount_allEntities_examine (desk : Desk) {s : Subject} (posed : s.Posed) :
    Ambiguity.firstNumber? .amount (examine desk s).subject.allEntities =
      s.parameters.primary.amount.bind Number.read? := by
  rw [← posed.amount_eq]
  unfold Ambiguity.firstNumber?
  rw [ofKind_allEntities_examine desk s posed.template_eq .amount (.inl (by decide))]

/-- The entities of a request tell its leverage. -/
theorem leverage_allEntities_requested (desk : Desk) (moment : Moment) {r : Request} {t : Template}
    (ht : Template.of? r.intent = some t) :
    Ambiguity.firstNumber? .leverage (examine desk (requested desk moment r t)).subject.allEntities =
      (requested desk moment r t).parameters.primary.leverage := by
  have stated : Ambiguity.firstNumber? .leverage (requested desk moment r t).allEntities =
      (requested desk moment r t).parameters.primary.leverage :=
    firstNumber?_eq_bind_firstText? .leverage _
  rw [← stated]
  unfold Ambiguity.firstNumber?
  rw [ofKind_allEntities_examine desk (requested desk moment r t) ht .leverage (.inl (by decide))]

theorem posed_replied (desk : Desk) {r : Reply} {choice : Choice} {t : Template}
    (ht : Template.of? (chosenIntent r choice) = some t) : (replied desk r choice t).Posed where
  template_eq := ht
  amount_eq := Ambiguity.firstNumber?_amount_implied _
  protocol_isSome := by
    show Ambiguity.namesProtocol (Ambiguity.entitiesOf _) = true → _
    rw [Ambiguity.namesProtocol_implied]
    cases (replied desk r choice t).parameters.primary.protocol with
    | none => exact nofun
    | some p => exact fun _ => rfl

/-! ## Answers that keep to the intent -/

/-- The subject of a request whose parameters were revised. -/
def revised (desk : Desk) (r : Request) (t : Template) (p : Parameters) : Subject where
  intent := r.intent
  parameters := estimated desk r.intent (some t) r.account p
  template := t
  account := r.account

/-- An answer that keeps to the intent of the request revises its parameters. -/
theorem resolve_eq_process {desk : Desk} {moment : Moment} {r : Request} {t : Template} {o : Outcome}
    {q : Question} {c : Choice} (ht : Template.of? r.intent = some t)
    (reports : o.Reports (examine desk (requested desk moment r t)))
    (found : q.find? c.id = some c) (proceeds : c.id ≠ Question.cancelId) (keeps : c.intent = none)
    (moment' : Moment) (number : Nat) (confidence : Float) :
    resolve desk moment' number
        { intent := o.intent, parameters := o.parameters, choice := c.id, question := q
          account := r.account, confidence } =
      process desk moment' number confidence (revised desk r t (o.parameters.revise c.revision)) := by
  have intent_eq : o.intent = r.intent := by
    rw [reports.intent_eq, intent_examine]
    rfl
  rw [resolve_eq]
  dsimp only
  rw [found]
  dsimp only
  rw [if_neg proceeds, chosenIntent, keeps, Option.getD_none, intent_eq, ht]
  dsimp only
  rw [replied, chosenIntent, keeps]
  rfl

/-! ## Outcomes of a desk -/

/-- An outcome that the desk gives to a request or to an answered question. -/
inductive Gives (desk : Desk) (o : Outcome) : Prop
  | parsed (moment : Moment) (number : Nat) (r : Request) (h : parse desk moment number r = .ok o)
  | resolved (moment : Moment) (number : Nat) (r : Reply) (h : resolve desk moment number r = .ok o)

/-- Where any outcome comes from: a question what the user wants, or a posed subject. -/
theorem Gives.reports {desk : Desk} {o : Outcome} (h : Gives desk o) :
    o.Clarifies ∨ ∃ s : Subject, s.Posed ∧ o.Reports (examine desk s) := by
  cases h with
  | parsed moment number r h =>
    rcases parse_eq_ok h with ⟨_, clarifies, _⟩ | ⟨t, ht, reports⟩
    · exact .inl clarifies
    · exact .inr ⟨_, posed_requested desk moment ht, reports⟩
  | resolved moment number r h =>
    obtain ⟨choice, t, _, _, ht, reports⟩ := resolve_eq_ok h
    exact .inr ⟨_, posed_replied desk ht, reports⟩

/-- A command has the intent and the parameters of its outcome. -/
theorem Gives.of_command {desk : Desk} {o : Outcome} {c : Command} (h : Gives desk o)
    (hc : o.command = some c) : c.intent = o.intent ∧ c.parameters = o.parameters := by
  rcases h.reports with clarifies | ⟨s, _, reports⟩
  · rw [clarifies.command_eq] at hc
    cases hc
  · exact reports.of_command c hc

end Desk

/-! ## Outcomes that hand out a command -/

namespace Outcome.Reports

open Desk Review

variable {desk : Desk} {s : Subject} {o : Outcome} {c : Command}

theorem intent_of_command (h : o.Reports (examine desk s)) (hc : o.command = some c) :
    c.intent = s.intent := by
  rw [(h.of_command c hc).1, h.intent_eq, intent_examine]

theorem parameters_of_command (h : o.Reports (examine desk s)) (hc : o.command = some c) :
    c.parameters = (examine desk s).subject.parameters := by
  rw [(h.of_command c hc).2, h.parameters_eq]

theorem errors_eq_nil (h : o.Reports (examine desk s)) (hc : o.command = some c) :
    o.errors = [] := by
  have valid := (h.command_isSome.1 (by rw [hc]; rfl)).1
  rw [h.errors_eq]
  exact (Finding.Filed.isValid_iff _ (filed_examine desk s)).1 valid

/-- Behind a command no stage of the review has found an error. -/
theorem stages_eq_nil (h : o.Reports (examine desk s)) (hc : o.command = some c) :
    requiredErrors (examine desk s).subject = [] ∧
      Rule.checkAll desk.catalog c.parameters s.template.rules = [] ∧
      (business desk.reviews (examine desk s).subject).errors = [] := by
  have no_errors := h.errors_eq_nil hc
  rw [h.errors_eq, errors_examine] at no_errors
  obtain ⟨required_and_rules, no_business⟩ := List.append_eq_nil_iff.1 no_errors
  obtain ⟨required, rules⟩ := List.append_eq_nil_iff.1 required_and_rules
  rw [template_examine, ← h.parameters_of_command hc] at rules
  exact ⟨required, rules, no_business⟩

/-- What a command states is as the rules of the template ask. -/
theorem holds (h : o.Reports (examine desk s)) (hc : o.command = some c) {rule : Rule}
    (mem : rule ∈ s.template.rules) {value : FieldValue}
    (hv : c.parameters.get? rule.field = some value) : rule.Holds desk.catalog value :=
  Rule.holds_of_checkAll_eq_nil (h.stages_eq_nil hc).2.1 mem hv

theorem question_eq_none (h : o.Reports (examine desk s)) (hc : o.command = some c) :
    o.question = none := by
  have asks_nothing := (h.command_isSome.1 (by rw [hc]; rfl)).2
  rw [asks_examine] at asks_nothing
  rw [h.question_eq]
  exact Option.isNone_iff_eq_none.1 (Option.isSome_eq_false_iff.1 asks_nothing)

/-- About the subject of a command nothing is ambiguous. -/
theorem ambiguities_eq_nil (h : o.Reports (examine desk s)) (hc : o.command = some c)
    (ht : Template.of? s.intent = some s.template) : ambiguities s = [] := by
  have none_open := h.question_eq_none hc
  rw [h.question_eq, question_examine, openQuestion?_eq_none_iff,
    ambiguities_examine desk s ht] at none_open
  exact none_open

theorem not_applies (h : o.Reports (examine desk s)) (hc : o.command = some c)
    (ht : Template.of? s.intent = some s.template) {a : Ambiguity} (ha : a ≠ .tokenDirection) :
    s.applies a = false := by
  apply not_applies_of_openQuestion?_eq_none _ ha
  rw [openQuestion?_eq_none_iff]
  exact h.ambiguities_eq_nil hc ht

end Outcome.Reports

/-! ## Commands that pass a check -/

theorem exists_command_of_any {answer : Except Failure Outcome} {p : Command → Bool}
    (h : answer.toOption.any fun o => o.command.any p) :
    ∃ o c, answer = .ok o ∧ o.command = some c ∧ p c = true := by
  obtain ⟨o, ho, found⟩ := exists_eq_ok_of_any h
  obtain ⟨c, hc, holds⟩ := (Option.any_eq_true ..).1 found
  exact ⟨o, c, ho, hc, holds⟩

/-- An answer with a command for this intent, in which some number passes a check. -/
theorem exists_command_stating (answer : Except Failure Outcome) (intent : Intent)
    (stated : Command → Option Float) (p : Float → Bool)
    (h : answer.toOption.any fun o => o.command.any fun c => c.intent = intent && (stated c).any p) :
    ∃ o c x, answer = .ok o ∧ o.command = some c ∧ c.intent = intent ∧ stated c = some x ∧
      p x = true := by
  obtain ⟨o, c, ho, hc, found⟩ := exists_command_of_any h
  obtain ⟨same, found⟩ := Bool.and_eq_true_iff.1 found
  obtain ⟨x, hx, holds⟩ := (Option.any_eq_true ..).1 found
  exact ⟨o, c, x, ho, hc, of_decide_eq_true same, hx, holds⟩

end Teller
