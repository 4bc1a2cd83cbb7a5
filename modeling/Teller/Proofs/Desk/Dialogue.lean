import Teller.Proofs.Desk.Answers

/-!
# Dialogues

A dialogue starts with a request; each later outcome answers the question of the one before with a
choice that was offered. Only the first question is about the entities of the request. Later ones
are about entities that the parameters imply, and those never show several amounts or contradicting
numbers. So these two ambiguities are asked about at once or never, and the request is carried out
with the first amount or number if something more urgent was ambiguous too.

    Dialogue.invariant          what holds of every outcome of a dialogue
    ambiguity_of_parse          the first question is about the most urgent ambiguity detected
    Follows.not_asksAbout       no later question is about several amounts or contradicting numbers
    Dialogue.asksAbout_iff      asked about exactly if nothing detected is more urgent
    surfaces_iff                when an ambiguity is put to the user before every command
-/

namespace Teller

open Ambiguity

def Outcome.AsksAbout (o : Outcome) (a : Ambiguity) : Prop :=
  o.question.bind (·.ambiguity) = some a

namespace Desk

open Review

/-- What is ambiguous about the entities of a request. -/
def detected (desk : Desk) (r : Request) : List Ambiguity :=
  detect r.intent (normalize desk r.entities r.account) r.account false

/-- An outcome that answers the question of another with a choice that was offered. -/
inductive Follows (desk : Desk) (o o' : Outcome) : Prop
  | intro (moment : Moment) (number : Nat) (account : Option Account) (confidence : Float)
      (question : Question) (choice : Choice) (asked : o.question = some question)
      (offered : choice ∈ question.choices)
      (answered : resolve desk moment number
        { intent := o.intent, parameters := o.parameters, choice := choice.id, question, account
          confidence } = .ok o')

/-- The outcomes of a dialogue that starts with a request, the last one first. -/
inductive Dialogue (desk : Desk) (r : Request) : List Outcome → Prop
  | start {o : Outcome} (moment : Moment) (number : Nat) (h : parse desk moment number r = .ok o) :
      Dialogue desk r [o]
  | next {o o' : Outcome} {earlier : List Outcome} (d : Dialogue desk r (o :: earlier))
      (h : Follows desk o o') : Dialogue desk r (o' :: o :: earlier)

/-- Goes on with a dialogue by answering its questions with these choices in turn. It ends early
when nothing is asked. -/
def carryOn (desk : Desk) (moment : Moment) (o : Outcome) (earlier : List Outcome) :
    List String → Except Failure (List Outcome)
  | [] => .ok (o :: earlier)
  | id :: ids =>
    match o.question with
    | none => .ok (o :: earlier)
    | some question => do
      let next ← resolve desk moment 1
        { intent := o.intent, parameters := o.parameters, choice := id, question }
      carryOn desk moment next (o :: earlier) ids

/-- The dialogue about a request in which questions are answered with these choices. -/
def converse (desk : Desk) (moment : Moment) (r : Request) (ids : List String) :
    Except Failure (List Outcome) := do
  carryOn desk moment (← parse desk moment 1 r) [] ids

/-- Whenever a dialogue ends in a command, the ambiguity was put to the user. -/
def Surfaces (desk : Desk) (r : Request) (a : Ambiguity) : Prop :=
  ∀ o earlier, Dialogue desk r (o :: earlier) → o.command.isSome →
    ∃ o' ∈ o :: earlier, o'.AsksAbout a

/-- What holds of the answer to a request, and is kept from one outcome to the next, holds of every
outcome of a dialogue. -/
theorem Dialogue.invariant {desk : Desk} {r : Request} {outcomes : List Outcome}
    {P : Outcome → Prop} (d : Dialogue desk r outcomes)
    (first : ∀ moment number o, parse desk moment number r = .ok o → P o)
    (step : ∀ o o', Follows desk o o' → P o → P o') : ∀ o ∈ outcomes, P o := by
  induction d with
  | start moment number h =>
    intro o ho
    rw [List.mem_singleton.1 ho]
    exact first moment number _ h
  | next d h ih =>
    intro o ho
    rcases List.mem_cons.1 ho with rfl | ho
    · exact step _ _ h (ih _ List.mem_cons_self)
    · exact ih o ho

theorem Follows.gives {desk : Desk} {o o' : Outcome} (h : Follows desk o o') : Gives desk o' := by
  obtain ⟨moment, number, _, _, _, _, _, _, answered⟩ := h
  exact .resolved moment number _ answered

theorem Dialogue.gives {desk : Desk} {r : Request} {outcomes : List Outcome}
    (d : Dialogue desk r outcomes) : ∀ o ∈ outcomes, Gives desk o :=
  d.invariant (fun moment number _ h => .parsed moment number r h) fun _ _ follows _ => follows.gives

/-! ## Conversations are dialogues -/

theorem Dialogue.carryOn_eq_ok {desk : Desk} {moment : Moment} {r : Request} {ids : List String}
    {o : Outcome} {earlier outcomes : List Outcome} (d : Dialogue desk r (o :: earlier))
    (h : carryOn desk moment o earlier ids = .ok outcomes) : Dialogue desk r outcomes := by
  induction ids generalizing o earlier with
  | nil =>
    cases h
    exact d
  | cons id ids ih =>
    unfold carryOn at h
    split at h
    · cases h
      exact d
    · next question asked =>
      obtain ⟨o', answered, goes_on⟩ := bind_eq_ok h
      obtain ⟨choice, _, found, _⟩ := resolve_eq_ok answered
      obtain ⟨offered, rfl⟩ := Question.find?_mem found
      exact ih (d.next ⟨moment, 1, none, 1, question, choice, asked, offered, answered⟩) goes_on

theorem dialogue_of_converse {desk : Desk} {moment : Moment} {r : Request} {ids : List String}
    {outcomes : List Outcome} (h : converse desk moment r ids = .ok outcomes) :
    Dialogue desk r outcomes := by
  obtain ⟨o, ho, h⟩ := bind_eq_ok h
  exact (Dialogue.start moment 1 ho).carryOn_eq_ok h

theorem exists_dialogue_of_converse {desk : Desk} {moment : Moment} {r : Request}
    {ids : List String} {p : Outcome → Bool}
    (h : (converse desk moment r ids).toOption.any (·.head?.any p)) :
    ∃ o earlier, Dialogue desk r (o :: earlier) ∧ p o = true := by
  obtain ⟨outcomes, ho, hp⟩ := exists_eq_ok_of_any h
  cases outcomes with
  | nil => cases hp
  | cons o earlier => exact ⟨o, earlier, dialogue_of_converse ho, hp⟩

/-! ## The first question -/

theorem lacksDirection_eq_false_of_isDirected {desk : Desk} {moment : Moment} {r : Request}
    {t : Template} (h : (requested desk moment r t).isDirected = true) :
    lacksDirection r.intent (normalize desk r.entities r.account) = false := by
  unfold Subject.isDirected at h
  rw [show (requested desk moment r t).parameters.primary =
    primaryOf (moment.seconds + desk.deadline) (normalize desk r.entities r.account) from rfl] at h
  unfold lacksDirection
  unfold primaryOf at h
  cases tokens : Entity.ofKind .token (normalize desk r.entities r.account) with
  | nil => simp
  | cons first others =>
    cases others with
    | nil =>
      rw [tokens] at h
      cases h
    | cons second rest => simp

theorem ambiguities_requested (desk : Desk) (moment : Moment) (r : Request) (t : Template) :
    ambiguities (requested desk moment r t) = detected desk r := by
  rw [ambiguities_eq]
  by_cases directed : (requested desk moment r t).isDirected = true
  · rw [if_pos directed]
    show (detected desk r).filter _ = detected desk r
    rw [List.filter_eq_self]
    intro a ha
    -- two tokens tell the direction, so there is nothing to be left out
    have applies := (mem_detect ..).1 ha
    cases a with
    | tokenDirection =>
      rw [show Ambiguity.applies _ _ _ _ .tokenDirection = lacksDirection _ _ from rfl,
        lacksDirection_eq_false_of_isDirected directed] at applies
      cases applies
    | _ => rfl
  · rw [if_neg directed]
    rfl

theorem ambiguity_of_reports {desk : Desk} {s : Subject} {o : Outcome}
    (h : o.Reports (examine desk s)) (ht : Template.of? s.intent = some s.template) :
    o.question.bind (·.ambiguity) = mostUrgent? (ambiguities s) := by
  rw [h.question_eq, question_examine, ← ambiguities_examine desk s ht]
  cases hq : openQuestion? (examine desk s).subject with
  | none =>
    rw [(openQuestion?_eq_none_iff _).1 hq]
    rfl
  | some q => exact ambiguity_of_openQuestion? hq

/-- The first question is about the most urgent ambiguity detected. -/
theorem ambiguity_of_parse {desk : Desk} {moment : Moment} {number : Nat} {r : Request}
    {o : Outcome} (h : parse desk moment number r = .ok o) :
    o.question.bind (·.ambiguity) = mostUrgent? (detected desk r) := by
  rcases parse_eq_ok h with ⟨unknown, clarifies, _⟩ | ⟨t, ht, reports⟩
  · obtain ⟨q, asked, hq⟩ := clarifies.question_eq
    rw [hq, detected, unknown, mostUrgent?_detect_unknown]
    cases asked
    rfl
  · rw [ambiguity_of_reports reports ht, ambiguities_requested]

/-- An answer that asks for anything but the intent reports on what was requested. -/
theorem reports_of_parse {desk : Desk} {moment : Moment} {number : Nat} {r : Request} {o : Outcome}
    {a : Ambiguity} (h : parse desk moment number r = .ok o) (asks : o.AsksAbout a)
    (clear : a ≠ .unclearIntent) : ∃ t, Template.of? r.intent = some t ∧
      o.Reports (examine desk (requested desk moment r t)) := by
  rcases parse_eq_ok h with ⟨_, clarifies, _⟩ | reports
  · obtain ⟨q, asked, hq⟩ := clarifies.question_eq
    cases asked
    rw [Outcome.AsksAbout, hq] at asks
    cases asks
    exact absurd rfl clear
  · exact reports

/-- The question about an ambiguity is made from what was examined. -/
theorem about_of_asksAbout {desk : Desk} {s : Subject} {o : Outcome} {q : Question} {a : Ambiguity}
    (h : o.Reports (examine desk s)) (asks : o.AsksAbout a) (asked : o.question = some q) :
    Question.about? (inquiry (examine desk s).subject) a = .ok q := by
  have open_question := asked
  rw [h.question_eq, question_examine] at open_question
  obtain ⟨b, _, about⟩ := about_openQuestion? open_question
  rw [Outcome.AsksAbout, asked, Option.bind_some, Question.ambiguity_of_about? about] at asks
  cases asks
  exact about

/-! ## Later questions -/

/-- An outcome that follows another reports on an answer to its question, with a choice that was
offered and does not cancel. -/
theorem Follows.exists_reply {desk : Desk} {o o' : Outcome} (h : Follows desk o o') :
    ∃ (r : Reply) (choice : Choice) (t : Template), r.intent = o.intent ∧
      r.parameters = o.parameters ∧ o.question = some r.question ∧ choice ∈ r.question.choices ∧
      choice.id ≠ Question.cancelId ∧ Template.of? (chosenIntent r choice) = some t ∧
      o'.Reports (examine desk (replied desk r choice t)) := by
  obtain ⟨moment, number, account, confidence, question, choice, asked, _, answered⟩ := h
  obtain ⟨chosen, t, found, proceeds, ht, reports⟩ := resolve_eq_ok answered
  obtain ⟨offered, same_id⟩ := Question.find?_mem found
  rw [← same_id] at proceeds
  exact ⟨_, chosen, t, rfl, rfl, asked, offered, proceeds, ht, reports⟩

/-- What is under review after an answer. -/
theorem Follows.reports {desk : Desk} {o o' : Outcome} (h : Follows desk o o') :
    ∃ s question choice, o.question = some question ∧ choice ∈ question.choices ∧
      s.intent = choice.intent.getD o.intent ∧ s.entities = none ∧
      s.parameters.primary = o.parameters.primary.revise choice.revision.primary ∧
      s.parameters.tuning = o.parameters.tuning.revise choice.revision.tuning ∧
      Template.of? s.intent = some s.template ∧ o'.Reports (examine desk s) := by
  obtain ⟨r, choice, t, intent_eq, parameters_eq, asked, offered, _, ht, reports⟩ := h.exists_reply
  rw [← intent_eq, ← parameters_eq]
  exact ⟨_, r.question, choice, asked, offered, rfl, rfl, rfl, rfl, ht, reports⟩

theorem not_applies_of_implied {s : Subject} (h : s.entities = none) {a : Ambiguity}
    (ha : a = .multipleAmounts ∨ a = .parameterConflict) : s.applies a = false := by
  have implied : s.allEntities = entitiesOf s.parameters.primary := by
    rw [Subject.allEntities, h]
    rfl
  rcases ha with rfl | rfl
  · show decide (1 < (Entity.ofKind .amount s.allEntities).length) = false
    rw [implied, decide_eq_false_iff_not, Nat.not_lt]
    exact length_ofKind_implied_le _ .amount (by decide)
  · show hasConflict s.allEntities = false
    rw [implied]
    exact not_hasConflict_implied _

/-- No later question is about several amounts or contradicting numbers. -/
theorem Follows.not_asksAbout {desk : Desk} {o o' : Outcome} (h : Follows desk o o')
    {a : Ambiguity} (ha : a = .multipleAmounts ∨ a = .parameterConflict) : ¬o'.AsksAbout a := by
  intro asks
  obtain ⟨s, _, _, _, _, _, no_entities, _, _, ht, reports⟩ := h.reports
  rw [Outcome.AsksAbout, ambiguity_of_reports reports ht, mostUrgent?_eq_some_iff] at asks
  have applies := applies_of_mem_ambiguities asks.2.1
  rw [not_applies_of_implied no_entities ha] at applies
  cases applies

/-! ## Whole dialogues -/

/-- Several amounts or contradicting numbers are asked about exactly if nothing detected is more
urgent. -/
theorem Dialogue.asksAbout_iff {desk : Desk} {r : Request} {outcomes : List Outcome}
    (d : Dialogue desk r outcomes) {a : Ambiguity}
    (ha : a = .multipleAmounts ∨ a = .parameterConflict) (found : a ∈ detected desk r) :
    (∃ o ∈ outcomes, o.AsksAbout a) ↔ ∀ b ∈ detected desk r, b.priority ≤ a.priority := by
  induction d with
  | @start o moment number h =>
    have askable : a ≠ .missingToken := by
      rcases ha with rfl | rfl <;> decide
    have first := ambiguity_of_parse h
    simp only [List.mem_singleton, exists_eq_left, Outcome.AsksAbout]
    rw [first, mostUrgent?_eq_some_iff]
    constructor
    · rintro ⟨_, _, most⟩
      exact most
    · intro most
      exact ⟨askable, found, most⟩
  | next d h ih =>
    rw [← ih]
    constructor
    · rintro ⟨o, ho, asks⟩
      rcases List.mem_cons.1 ho with rfl | ho
      · exact absurd asks (h.not_asksAbout ha)
      · exact ⟨o, ho, asks⟩
    · rintro ⟨o, ho, asks⟩
      exact ⟨o, List.mem_cons_of_mem _ ho, asks⟩

/-- When several amounts or contradicting numbers are put to the user before every command: if
nothing detected is more urgent, or if no dialogue ends in a command. -/
theorem surfaces_iff (desk : Desk) (r : Request) (a : Ambiguity)
    (ha : a = .multipleAmounts ∨ a = .parameterConflict) (found : a ∈ detected desk r) :
    Surfaces desk r a ↔ (∀ b ∈ detected desk r, b.priority ≤ a.priority) ∨
      ∀ o earlier, Dialogue desk r (o :: earlier) → o.command = none := by
  constructor
  · intro surfaces
    by_cases most : ∀ b ∈ detected desk r, b.priority ≤ a.priority
    · exact .inl most
    · refine .inr fun o earlier d => ?_
      rw [← Option.not_isSome_iff_eq_none]
      intro handed_out
      exact most ((d.asksAbout_iff ha found).1 (surfaces o earlier d handed_out))
  · rintro (most | never) o earlier d handed_out
    · exact (d.asksAbout_iff ha found).2 most
    · rw [never o earlier d] at handed_out
      cases handed_out

/-- To lend a hundred or two hundred USDC, at Silo. -/
def lendEitherAtSilo : Request where
  intent := .lend
  entities := [{ kind := .amount, value := "100", normalized := "100" },
    { kind := .amount, value := "200", normalized := "200" },
    { kind := .token, value := "USDC", normalized := "USDC" },
    { kind := .protocol, value := "Silo", normalized := "silo" }]

theorem lendEitherAtSilo_surfaces :
    .multipleAmounts ∈ detected {} lendEitherAtSilo ∧
      Surfaces {} lendEitherAtSilo .multipleAmounts := by
  have found : .multipleAmounts ∈ detected {} lendEitherAtSilo := by decide +kernel
  have most : ∀ b ∈ detected {} lendEitherAtSilo,
      b.priority ≤ Ambiguity.multipleAmounts.priority := by
    decide +kernel
  exact ⟨found, (surfaces_iff {} lendEitherAtSilo _ (.inl rfl) found).2 (.inl most)⟩

/-- To lend a hundred or two hundred USDC, without a protocol. -/
def lendEither : Request where
  intent := .lend
  entities := [{ kind := .amount, value := "100", normalized := "100" },
    { kind := .amount, value := "200", normalized := "200" },
    { kind := .token, value := "USDC", normalized := "USDC" }]

/-- The protocol is asked about first, and then a hundred USDC are lent without a word about the two
hundred. -/
theorem lendEither_not_surfaces :
    .multipleAmounts ∈ detected {} lendEither ∧
      ¬Surfaces {} lendEither .multipleAmounts := by
  have found : .multipleAmounts ∈ detected {} lendEither := by decide +kernel
  have urgent : .missingProtocol ∈ detected {} lendEither := by decide +kernel
  refine ⟨found, fun surfaces => ?_⟩
  have ends : (converse {} ⟨0, 0⟩ lendEither ["protocol_silo"]).toOption.any
      (·.head?.any (·.command.isSome)) := by
    decide +kernel
  obtain ⟨o, earlier, d, handed_out⟩ := exists_dialogue_of_converse ends
  have most := (d.asksAbout_iff (.inl rfl) found).1 (surfaces o earlier d handed_out)
  exact absurd (most _ urgent) (by decide)

end Desk

end Teller
