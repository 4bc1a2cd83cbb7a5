import Teller.Proofs.Careful.Questions
import Teller.Proofs.Desk.Progress

/-!
# Answers with care

The review, the builder and the desk once more, with a fault wherever a step could break off. Each
stage has a handler that catches the faults of its steps and reports them under a code of its own,
so a careful answer breaks off with the code of the first handler that is called upon. No handler
ever is: on entities that were recognised with a confidence the careful answers are the answers of
the desk.

    review_eq_ok          a review is carried out
    examine_eq_ok         a subject is examined
    exists_process        a subject is processed
    parse_eq              requests are answered as by the desk
    resolve_eq            answered questions are resolved as by the desk
-/

namespace Teller

/-- The entities of a subject, if it has any of its own, were recognised with a confidence. -/
def Review.Subject.IsRecognised (s : Review.Subject) : Prop :=
  ∀ given, s.entities = some given → ∀ e ∈ given, e.IsRecognised

namespace Careful

open Review

/-! ## Reviews -/

/-- The part of a balance that an amount takes, in percent; of an empty balance it takes all. -/
def share (amount balance : Float) : Except Fault Float :=
  if balance != 0 then (quotient amount balance).map (· * 100) else .ok 100

/-- Lending takes no more than the balance, and most of it only with a warning. -/
def checkLending (config : Config) (s : Subject) : Except Fault Business :=
  let p := s.parameters.primary
  match amountOf? p, balanceOf? s.account p.token with
  | some amount, some balance =>
    if balance < amount then .ok { errors := [insufficientBalance p.token balance p.amount] }
    else if balance * config.highBalanceRatio < amount then do
      let share ← share amount balance
      let token := p.token.getD ""
      return { warnings := [.warning "amount" .highPercentageOfBalance
          s!"You are lending {Number.fixed 1 share}% of your {token} balance"
          (some "Consider keeping some tokens for gas fees and emergencies")] }
    else .ok {}
  | _, _ => .ok {}

/-- The business rules of the intent. Only the one for lending divides. -/
def business (config : Config) (s : Subject) : Except Fault Business :=
  match s.intent with
  | .lend => checkLending config s
  | _ => .ok (Review.business config s)

def allEntities (s : Subject) : Except Fault (List Entity) :=
  match s.entities with
  | some given => .ok given
  | none => entitiesOf s.parameters.primary

/-- Whatever is ambiguous must be asked about. The question is left out if nothing can be asked
about, but its choices must not break off. -/
def checkAmbiguities (s : Subject) : Except Failure.Code Doubt :=
  if (ambiguities s).isEmpty then .ok {}
  else
    match ask (inquiry s) with
    | .ok q => .ok { asks := true, question := some q }
    | .error (.nothingToAsk _) => .ok {}
    | .error (.broken _) => .error .disambiguationError

/-- Reviews parameters in all stages. A rule has a handler of its own, which files a finding. -/
def review (config : Config) (catalog : Asset.Catalog) (s : Subject) :
    Except Failure.Code Review := do
  let business ← within .validationError (business config s)
  let entities ← within .validationError (allEntities s)
  let doubt ← checkAmbiguities { s with entities := some entities }
  return { Teller.review config catalog s with
    errors := requiredErrors s ++ Rule.checkAll catalog s.parameters s.template.rules ++ business.errors
    warnings := inferenceNotes s ++ business.warnings
    asks := doubt.asks
    question := doubt.question }

theorem business_eq_ok (config : Config) (s : Subject) :
    business config s = .ok (Review.business config s) := by
  have share_eq (amount balance : Float) : share amount balance =
      .ok (if balance != 0 then amount / balance * 100 else 100) := by
    unfold share
    split
    · next nonzero =>
      rw [quotient_eq_ok amount (by simpa [bne] using nonzero)]
      rfl
    · rfl
  have lending : checkLending config s = .ok (Review.checkLending config s) := by
    unfold checkLending Review.checkLending
    dsimp only
    cases amountOf? s.parameters.primary with
    | none => rfl
    | some amount =>
      cases balanceOf? s.account s.parameters.primary.token with
      | none => rfl
      | some balance =>
        dsimp only
        by_cases uncovered : balance < amount
        · rw [if_pos uncovered, if_pos uncovered]
        · rw [if_neg uncovered, if_neg uncovered]
          by_cases most : balance * config.highBalanceRatio < amount
          · rw [if_pos most, if_pos most, share_eq]
            rfl
          · rw [if_neg most, if_neg most]
  unfold business
  split
  · next lends =>
    rw [lending, Review.business, lends]
  · rfl

theorem allEntities_eq_ok (s : Subject) : allEntities s = .ok s.allEntities := by
  unfold allEntities Subject.allEntities
  cases s.entities with
  | some given => rfl
  | none => exact entitiesOf_eq_ok _

theorem recognised_allEntities {s : Subject} (h : s.IsRecognised) :
    ∀ e ∈ s.allEntities, e.IsRecognised := by
  unfold Subject.allEntities
  cases given : s.entities with
  | some es => exact h es given
  | none => exact fun e he => isRecognised_of_mem_entitiesOf he

theorem checkAmbiguities_eq_ok {s : Subject} (h : s.IsRecognised) :
    checkAmbiguities s = .ok (Review.checkAmbiguities s) := by
  unfold checkAmbiguities Review.checkAmbiguities
  split
  · rfl
  · next some_found =>
    obtain ⟨q, asked⟩ := exists_ask_inquiry_eq_ok s (by simpa using some_found)
    rw [ask_eq (i := inquiry s) (recognised_allEntities h), asked]

/-- A review is carried out. -/
theorem review_eq_ok (config : Config) (catalog : Asset.Catalog) {s : Subject} (h : s.IsRecognised) :
    review config catalog s = .ok (Teller.review config catalog s) := by
  have entered : Subject.IsRecognised { s with entities := some s.allEntities } := by
    rintro _ ⟨⟩
    exact recognised_allEntities h
  unfold review
  rw [business_eq_ok, within_ok, ok_bind, allEntities_eq_ok, within_ok, ok_bind,
    checkAmbiguities_eq_ok entered]
  rfl

/-! ## Answers -/

open Desk

/-- Reviews a subject, and once more if parameters can be inferred. The handler of the whole request
catches what happens between the two reviews. -/
def examine (outer : Failure.Code) (desk : Desk) (s : Subject) : Except Failure.Code Reviewed := do
  let first ← review desk.reviews desk.catalog s
  if first.inferred.isEmpty then return ⟨s, first⟩
  else
    let parameters ← within outer <| estimated desk s.intent (some s.template) s.account
      (s.parameters.revise { primary := inferredRevision first.inferred })
    let completed : Subject := { s with
      parameters
      entities := s.entities.map (· ++ inferredEntities first.inferred) }
    let second ← review desk.reviews desk.catalog completed
    let notes := first.warnings.filter (·.severity == .info)
    return ⟨completed, { second with warnings := notes ++ second.warnings }⟩

def process (outer : Failure.Code) (desk : Desk) (moment : Moment) (number : Nat) (confidence : Float)
    (s : Subject) : Except Failure.Code Outcome := do
  let ⟨s, found⟩ ← examine outer desk s
  let command ← (Command.build desk.commands moment.milliseconds number
    { intent := s.intent, parameters := s.parameters, template := some s.template }).mapError (·.code)
  let command := withMetadata command s.account confidence found.warnings
  return outcomeOf desk s found command

def clarify (desk : Desk) (moment : Moment) (entities : List Entity) (account : Option Account) :
    Except Failure.Code Outcome := do
  let inquiry : Inquiry := {
    intent := .unknown
    entities
    ambiguities := Ambiguity.detect .unknown entities account false
    account }
  let question ← (ask inquiry).mapError (·.failure.code)
  let parameters ← within .parameterExtractionError (extract desk moment .unknown none account entities)
  return { intent := .unknown, parameters, asks := true, question := some question }

/-- Answers a request, or breaks off with the code of the handler that is called upon. -/
def parse (desk : Desk) (moment : Moment) (number : Nat) (r : Request) :
    Except Failure.Code (Except Failure Outcome) := do
  let entities ← within .parsingError (normalize desk r.entities r.account)
  if r.intent = .unknown then (clarify desk moment entities r.account).map .ok
  else
    match Template.of? r.intent with
    | none => return .error (notSupported r.intent)
    | some template =>
      let parameters ← within .parameterExtractionError
        (extract desk moment r.intent (some template) r.account entities)
      (process .parsingError desk moment number r.confidence {
        intent := r.intent
        parameters
        template
        account := r.account
        entities := some entities }).map .ok

/-- Answers the answer to a question, or breaks off with the code of the handler that is called
upon. -/
def resolve (desk : Desk) (moment : Moment) (number : Nat) (r : Reply) :
    Except Failure.Code (Except Failure Outcome) :=
  match r.question.find? r.choice with
  | none => .ok (.error (r.question.invalidChoice r.choice))
  | some choice =>
    if r.choice = Question.cancelId then .ok (.error (cancelled r.choice))
    else
      let intent := chosenIntent r choice
      match Template.of? intent with
      | none => .ok (.error (notSupported intent))
      | some template => do
        let parameters ← within .resolutionError <| estimated desk intent (some template) r.account
          (r.parameters.revise choice.revision)
        (process .resolutionError desk moment number r.confidence {
          intent
          parameters
          template
          account := r.account }).map .ok

section

variable (desk : Desk) (moment : Moment) (number : Nat)

/-- A subject is examined. -/
theorem examine_eq_ok (outer : Failure.Code) {s : Subject} (recognised : s.IsRecognised)
    (known : IsKnown (some s.template)) : examine outer desk s = .ok (Desk.examine desk s) := by
  have completed (inferred : Table String) (parameters : Parameters) : Subject.IsRecognised { s with
      parameters, entities := s.entities.map (· ++ inferredEntities inferred) } := by
    intro given hg e he
    obtain ⟨es, hes, rfl⟩ := Option.map_eq_some_iff.1 hg
    rcases List.mem_append.1 he with stated | added
    · exact recognised es hes e stated
    · obtain ⟨⟨field, value⟩, _, made⟩ := List.mem_filterMap.1 added
      obtain ⟨kind, _, rfl⟩ := Option.map_eq_some_iff.1 made
      exact isConfidence_one
  unfold examine Desk.examine
  rw [review_eq_ok desk.reviews desk.catalog recognised, ok_bind]
  dsimp only
  split
  · rfl
  · rw [estimated_eq_ok desk s.intent known, within_ok, ok_bind,
      review_eq_ok desk.reviews desk.catalog (completed _ _), ok_bind]
    rfl

/-- A subject is processed. -/
theorem exists_process (outer : Failure.Code) (confidence : Float) {s : Subject}
    (recognised : s.IsRecognised) (ht : Template.of? s.intent = some s.template) :
    ∃ o, process outer desk moment number confidence s = .ok o ∧
      Desk.process desk moment number confidence s = .ok o := by
  have examined := examine_eq_ok desk outer recognised (isKnown_of? ht)
  rw [← intent_examine desk s, ← template_examine desk s] at ht
  obtain ⟨c, built⟩ := exists_build_eq_ok desk.commands moment.milliseconds number
    (Desk.examine desk s).subject.parameters ht
  unfold process Desk.process
  rw [examined, ok_bind]
  dsimp only
  rw [built]
  exact ⟨_, rfl, rfl⟩

/-- What the user wants is asked. -/
theorem exists_clarify {entities : List Entity} (recognised : ∀ e ∈ entities, e.IsRecognised)
    (account : Option Account) : ∃ o, clarify desk moment entities account = .ok o ∧
      Desk.clarify desk moment entities account = .ok o := by
  obtain ⟨q, asked⟩ := exists_ask_unclear entities account
  unfold clarify Desk.clarify
  dsimp only
  rw [ask_eq recognised, asked, extract_eq_ok desk moment .unknown isKnown_none]
  exact ⟨_, rfl, rfl⟩

/-- Requests are answered as by the desk. -/
theorem parse_eq {r : Request} (recognised : ∀ e ∈ r.entities, e.IsRecognised) :
    parse desk moment number r = .ok (Desk.parse desk moment number r) := by
  have normalized : ∀ e ∈ Desk.normalize desk r.entities r.account, e.IsRecognised := by
    intro e he
    obtain ⟨typed, ht, rfl⟩ := List.mem_map.1 he
    exact recognised typed ht
  unfold parse Desk.parse
  rw [normalize_eq_ok, within_ok, ok_bind]
  dsimp only
  split
  · obtain ⟨o, careful, asked⟩ := exists_clarify desk moment normalized r.account
    rw [careful, asked]
    rfl
  · cases ht : Template.of? r.intent with
    | none => rfl
    | some t =>
      dsimp only
      rw [extract_eq_ok desk moment r.intent (isKnown_of? ht), within_ok, ok_bind]
      obtain ⟨o, careful, processed⟩ := exists_process desk moment number .parsingError r.confidence
        (s := requested desk moment r t) (by rintro _ ⟨⟩; exact normalized) ht
      exact (congrArg (Except.map Except.ok) careful).trans (congrArg Except.ok processed.symm)

/-- Answered questions are resolved as by the desk. -/
theorem resolve_eq (r : Reply) :
    resolve desk moment number r = .ok (Desk.resolve desk moment number r) := by
  rw [Desk.resolve_eq]
  unfold resolve
  cases r.question.find? r.choice with
  | none => rfl
  | some choice =>
    dsimp only
    split
    · rfl
    · cases ht : Template.of? (chosenIntent r choice) with
      | none => rfl
      | some t =>
        dsimp only
        rw [estimated_eq_ok desk _ (isKnown_of? ht), within_ok, ok_bind]
        obtain ⟨o, careful, processed⟩ := exists_process desk moment number .resolutionError r.confidence
          (s := replied desk r choice t) nofun ht
        exact (congrArg (Except.map Except.ok) careful).trans (congrArg Except.ok processed.symm)

end

end Careful

end Teller
