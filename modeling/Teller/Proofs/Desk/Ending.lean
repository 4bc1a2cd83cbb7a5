import Mathlib.Data.List.Perm.Subperm
import Teller.Proofs.Desk.Progress
import Teller.Proofs.Desk.Routing

/-!
# Dialogues end

An answer can switch the intent, move the token or replace the amount, and each of these may bring
up further ambiguities. But whatever was asked about is settled by the answer, and no later answer
unsettles it: a protocol stays named, the direction of a swap stays stated, an acknowledged risk
stays acknowledged, and the rest is only ever found among the entities of a request. So no ambiguity
is asked about twice, and there are at most as many questions as ambiguities that can be asked
about. Each question can be answered by each of its choices, but for the one that cancels.

    Ambiguity.IsSettled             what keeps an ambiguity from being found again
    not_asksAbout_of_isSettled      what is settled is not asked about
    isSettled_of_offers             an answer settles what was asked about
    isSettled_revise                and unsettles nothing
    Follows.settles                 what an outcome asked about or had settled stays settled
    Dialogue.nodup_asked            no ambiguity is asked about twice
    dialogue_ends                   a dialogue has at most seven questions, and each can be answered
-/

namespace Teller

open Ambiguity

/-- What keeps an ambiguity from being found among the entities that parameters imply. Several
amounts, contradicting numbers and an unclear intent are never found there. -/
def Ambiguity.IsSettled (intent : Intent) (p : Parameters) : Ambiguity → Prop
  | missingProtocol | protocolChoice => (stated? p.primary.protocol).isSome
  | tokenDirection => intent = .swap ∧ (stated? p.primary.token = none ∨
      ((stated? p.primary.fromToken).isSome || (stated? p.primary.toToken).isSome) = true)
  | riskConfirmation => p.tuning.riskAcknowledged = some true
  | multipleAmounts | parameterConflict | unclearIntent | missingToken => True

/-- The questions of a dialogue, the last one first. -/
def questionsOf (outcomes : List Outcome) : List Question := outcomes.filterMap (·.question)

theorem questionsOf_cons (o : Outcome) (earlier : List Outcome) :
    questionsOf (o :: earlier) = o.question.toList ++ questionsOf earlier := by
  unfold questionsOf
  cases h : o.question with
  | none => exact List.filterMap_cons_none h
  | some q => exact List.filterMap_cons_some h

namespace Desk

open Review

/-! ## What is settled is not asked about -/

section

variable {desk : Desk} {s : Subject} {o : Outcome} {a : Ambiguity}

theorem allEntities_of_none (h : s.entities = none) :
    s.allEntities = entitiesOf s.parameters.primary := by
  rw [Subject.allEntities, h]
  rfl

theorem not_applies_of_names_protocol (h : s.entities = none)
    (named : (stated? s.parameters.primary.protocol).isSome)
    (ha : a = .missingProtocol ∨ a = .protocolChoice) : s.applies a = false := by
  have names : namesProtocol s.allEntities = true := by
    rw [allEntities_of_none h, namesProtocol_implied, named]
  rcases ha with rfl | rfl
  · show lacksProtocol s.intent s.allEntities = false
    simp [lacksProtocol, names]
  · show Venue.hasChoice s.intent (namesProtocol s.allEntities) _ = false
    simp [Venue.hasChoice, names]

theorem not_applies_tokenDirection (h : s.entities = none) (undirected : s.isDirected = false)
    (token : stated? s.parameters.primary.token = none) : s.applies .tokenDirection = false := by
  simp only [Subject.isDirected, Bool.or_eq_false_iff, Option.isSome_eq_false_iff,
    Option.isNone_iff_eq_none] at undirected
  show lacksDirection s.intent s.allEntities = false
  rw [allEntities_of_none h, lacksDirection,
    ofKind_token_implied_eq_nil token undirected.1 undirected.2]
  simp

/-- What is settled is not ambiguous among the entities that parameters imply. -/
theorem not_mem_ambiguities_of_isSettled (ht : Template.of? s.intent = some s.template)
    (h : s.entities = none) (settled : a.IsSettled s.intent s.parameters) : a ∉ ambiguities s := by
  rw [mem_ambiguities]
  rintro ⟨applies, undirected⟩
  cases a with
  | missingProtocol =>
    rw [not_applies_of_names_protocol h settled (.inl rfl)] at applies
    cases applies
  | protocolChoice =>
    rw [not_applies_of_names_protocol h settled (.inr rfl)] at applies
    cases applies
  | tokenDirection =>
    have undirected : s.isDirected = false := by simpa using undirected
    rcases settled.2 with token | directed
    · rw [not_applies_tokenDirection h undirected token] at applies
      cases applies
    · rw [Subject.isDirected, directed] at undirected
      cases undirected
  | riskConfirmation =>
    have acknowledged : s.parameters.tuning.riskAcknowledged = some true := settled
    have applies : (!s.parameters.tuning.riskAcknowledged.getD false && _) = true := applies
    rw [acknowledged] at applies
    cases applies
  | multipleAmounts =>
    rw [not_applies_of_implied h (.inl rfl)] at applies
    cases applies
  | parameterConflict =>
    rw [not_applies_of_implied h (.inr rfl)] at applies
    cases applies
  | unclearIntent => exact ne_unknown_of_of? ht (eq_of_beq applies)
  | missingToken => cases applies

theorem not_asksAbout_of_isSettled (reports : o.Reports (examine desk s))
    (ht : Template.of? s.intent = some s.template) (h : s.entities = none)
    (settled : a.IsSettled s.intent s.parameters) : ¬o.AsksAbout a := by
  intro asks
  rw [Outcome.AsksAbout, ambiguity_of_reports reports ht, mostUrgent?_eq_some_iff] at asks
  exact not_mem_ambiguities_of_isSettled ht h settled asks.2.1

/-- What the account supplies unsettles nothing. -/
theorem isSettled_of_reports (reports : o.Reports (examine desk s))
    (ht : Template.of? s.intent = some s.template) (settled : a.IsSettled s.intent s.parameters) :
    a.IsSettled o.intent o.parameters := by
  rw [reports.intent_eq, reports.parameters_eq, intent_examine]
  cases a with
  | missingProtocol | protocolChoice =>
    show (stated? (examine desk s).subject.parameters.primary.protocol).isSome
    rw [protocol_examine desk s ht]
    exact settled
  | tokenDirection =>
    obtain ⟨swap, tokens⟩ := settled
    refine ⟨swap, ?_⟩
    rw [primary_examine, inferences_eq_nil_of_swap s ht swap]
    exact tokens
  | riskConfirmation =>
    show (examine desk s).subject.parameters.tuning.riskAcknowledged = some true
    rw [tuning_examine]
    exact settled
  | multipleAmounts | parameterConflict | unclearIntent | missingToken => trivial

end

/-! ## Answers settle and do not unsettle -/

section

variable {i : Inquiry} {a b : Ambiguity} {intent : Intent} {chosen : Option Intent} {p : Parameters}
  {revision : Parameters.Revision}

theorem id_ne_empty (v : Venue) : v.id ≠ "" := by
  cases v <;> decide

theorem isSome_stated?_id (v : Venue) : (stated? (some v.id)).isSome := by
  simp [stated?, Option.filter, id_ne_empty v]

/-- An answer settles what was asked about, unless it cancels. -/
theorem isSettled_of_offers (offers : Question.Offers i a chosen revision)
    (swap : a = .tokenDirection → intent = .swap)
    (confirmed : a = .riskConfirmation → revision.tuning.riskAcknowledged = some (some true)) :
    a.IsSettled (chosen.getD intent) (p.revise revision) := by
  cases offers with
  | missingVenue v | preferredVenue v => exact isSome_stated?_id v
  | given | wanted => exact ⟨swap rfl, .inl rfl⟩
  | proceed | reduce => rfl
  | cancel => cases confirmed rfl
  | intent | amount | leverage | slippage => trivial

/-- An answer unsettles nothing. -/
theorem isSettled_revise (offers : Question.Offers i b chosen revision)
    (unclear : b = .unclearIntent → intent = .unknown) (settled : a.IsSettled intent p) :
    a.IsSettled (chosen.getD intent) (p.revise revision) := by
  cases a with
  | multipleAmounts | parameterConflict | unclearIntent | missingToken => trivial
  | missingProtocol | protocolChoice =>
    cases offers with
    | missingVenue v | preferredVenue v => exact isSome_stated?_id v
    | intent | given | wanted | amount | proceed | cancel | reduce | leverage | slippage =>
      exact settled
  | riskConfirmation =>
    cases offers with
    | proceed | reduce => rfl
    | intent | given | wanted | missingVenue | preferredVenue | amount | cancel | leverage
    | slippage => exact settled
  | tokenDirection =>
    obtain ⟨swap, tokens⟩ := settled
    cases offers with
    | intent =>
      -- a swap has a clear intent
      rw [unclear rfl] at swap
      cases swap
    | given | wanted => exact ⟨swap, .inl rfl⟩
    | missingVenue | preferredVenue | amount | proceed | cancel | reduce | leverage | slippage =>
      exact ⟨swap, tokens⟩

theorem acknowledged_of_riskConfirmation {q : Question} {c : Choice}
    (h : Question.about? i .riskConfirmation = .ok q) (hc : c ∈ q.choices)
    (proceeds : c.id ≠ Question.cancelId) :
    c.revision.tuning.riskAcknowledged = some (some true) := by
  cases h
  rcases List.mem_cons.1 hc with rfl | hc
  · rfl
  · rcases List.mem_cons.1 hc with rfl | hc
    · exact absurd rfl proceeds
    · rw [List.mem_singleton.1 hc]

end

/-! ## What outcomes ask -/

/-- What an outcome asks about applies to its intent. -/
theorem Gives.exists_about {desk : Desk} {o : Outcome} {q : Question} (h : Gives desk o)
    (hq : o.question = some q) : ∃ i a acknowledged, Question.about? i a = .ok q ∧
      i.intent = o.intent ∧ Ambiguity.applies i.intent i.entities i.account acknowledged a = true := by
  rcases h.reports with clarifies | ⟨s, posed, reports⟩
  · obtain ⟨q', asked, hq'⟩ := clarifies.question_eq
    rw [hq] at hq'
    cases hq'
    refine ⟨{ intent := .unknown, entities := [], ambiguities := [] }, .unclearIntent, false, ?_,
      clarifies.intent_eq.symm, rfl⟩
    rw [Question.about?, asked]
    rfl
  · rw [reports.question_eq, question_examine] at hq
    obtain ⟨a, ha, about⟩ := about_openQuestion? hq
    exact ⟨inquiry (examine desk s).subject, a, _, about, reports.intent_eq.symm,
      applies_of_mem_ambiguities ha⟩

/-- A choice keeps to an intent with a template. -/
theorem Gives.exists_template {desk : Desk} {o : Outcome} {q : Question} {c : Choice}
    (h : Gives desk o) (hq : o.question = some q) (hc : c ∈ q.choices) :
    ∃ t, Template.of? (c.intent.getD o.intent) = some t := by
  rcases h.reports with clarifies | ⟨s, posed, reports⟩
  · obtain ⟨q', asked, hq'⟩ := clarifies.question_eq
    rw [hq] at hq'
    cases hq'
    rw [(Question.of?_eq_ok asked).1] at hc
    obtain ⟨offered, mem, rfl⟩ := List.mem_map.1 hc
    have all_have_one : ∀ offered ∈ Question.commonIntents, (Template.of? offered.1).isSome := by
      decide
    exact Option.isSome_iff_exists.1 (all_have_one offered mem)
  · have asked := hq
    rw [reports.question_eq, question_examine] at asked
    have known : (examine desk s).subject.intent ≠ .unknown := by
      rw [intent_examine]
      exact ne_unknown_of_of? posed.template_eq
    rw [(keepsVenue_of_openQuestion? asked known hc).intent_eq, reports.intent_eq, intent_examine]
    exact ⟨s.template, posed.template_eq⟩

/-! ## Dialogues -/

/-- An answer settles what was asked about and whatever was settled before. -/
theorem isSettled_replied {desk : Desk} {o : Outcome} {r : Reply} {choice : Choice} {a : Ambiguity}
    (gives : Gives desk o) (asked : o.question = some r.question) (offered : choice ∈ r.question.choices)
    (proceeds : choice.id ≠ Question.cancelId)
    (done : o.AsksAbout a ∨ a.IsSettled o.intent o.parameters) :
    a.IsSettled (choice.intent.getD o.intent) (o.parameters.revise choice.revision) := by
  obtain ⟨i, b, acknowledged, about, intent_eq, applies⟩ := gives.exists_about asked
  have offers := Question.offers_of_about? about offered
  rw [intent_eq] at applies
  rcases done with asks | settled
  · have same : b = a := by
      rw [Outcome.AsksAbout, asked, Option.bind_some, Question.ambiguity_of_about? about] at asks
      exact Option.some.inj asks
    subst same
    refine isSettled_of_offers offers ?_ ?_
    · rintro rfl
      have direction : lacksDirection o.intent i.entities = true := applies
      simp only [lacksDirection, Bool.and_eq_true, beq_iff_eq] at direction
      exact direction.1.1
    · rintro rfl
      exact acknowledged_of_riskConfirmation about offered proceeds
  · refine isSettled_revise offers ?_ settled
    rintro rfl
    exact eq_of_beq applies

/-! ## Dialogues -/

/-- What an outcome asked about or had settled is settled in the next, and not asked about. -/
theorem Follows.settles {desk : Desk} {o o' : Outcome} {a : Ambiguity} (h : Follows desk o o')
    (gives : Gives desk o) (done : o.AsksAbout a ∨ a.IsSettled o.intent o.parameters) :
    a.IsSettled o'.intent o'.parameters ∧ ¬o'.AsksAbout a := by
  obtain ⟨r, choice, t, intent_eq, parameters_eq, asked, offered, proceeds, ht, reports⟩ :=
    h.exists_reply
  have settled := isSettled_replied gives asked offered proceeds done
  rw [← intent_eq, ← parameters_eq] at settled
  have posed : a.IsSettled (replied desk r choice t).intent (replied desk r choice t).parameters := by
    cases a <;> exact settled
  exact ⟨isSettled_of_reports reports ht posed, not_asksAbout_of_isSettled reports ht rfl posed⟩

/-- Whatever was asked about in a dialogue is asked about by the last outcome or settled in it. -/
theorem Dialogue.settled {desk : Desk} {r : Request} {o : Outcome} {earlier : List Outcome}
    (d : Dialogue desk r (o :: earlier)) {a : Ambiguity} {x : Outcome} (hx : x ∈ o :: earlier)
    (asks : x.AsksAbout a) : o.AsksAbout a ∨ a.IsSettled o.intent o.parameters := by
  generalize all : o :: earlier = outcomes at d hx
  induction d generalizing o earlier with
  | start moment number h =>
    cases all
    rw [List.mem_singleton.1 hx] at asks
    exact .inl asks
  | @next before after others d h ih =>
    cases all
    rcases List.mem_cons.1 hx with rfl | hx
    · exact .inl asks
    · have gives := d.gives before List.mem_cons_self
      exact .inr (h.settles gives (ih rfl hx)).1

/-- No ambiguity is asked about twice. -/
theorem Dialogue.nodup_asked {desk : Desk} {r : Request} {outcomes : List Outcome}
    (d : Dialogue desk r outcomes) : ((questionsOf outcomes).map (·.ambiguity)).Nodup := by
  induction d with
  | @start o moment number h =>
    rw [questionsOf_cons]
    cases o.question with
    | none => exact .nil
    | some q => exact List.pairwise_singleton ..
  | @next o o' earlier d h ih =>
    rw [questionsOf_cons]
    cases hq : o'.question with
    | none => exact ih
    | some q =>
      refine List.nodup_cons.2 ⟨fun again => ?_, ih⟩
      obtain ⟨i, a, _, about, _⟩ := h.gives.exists_about hq
      have ambiguity_eq := Question.ambiguity_of_about? about
      obtain ⟨q', hq', same⟩ := List.mem_map.1 again
      obtain ⟨x, hx, asked⟩ := List.mem_filterMap.1 hq'
      have asks : x.AsksAbout a := by
        rw [Outcome.AsksAbout, asked, Option.bind_some, same]
        exact ambiguity_eq
      have asks' : o'.AsksAbout a := by
        rw [Outcome.AsksAbout, hq, Option.bind_some, ambiguity_eq]
      have gives := d.gives o List.mem_cons_self
      exact (h.settles gives (d.settled hx asks)).2 asks'

theorem Dialogue.ambiguity_mem {desk : Desk} {r : Request} {outcomes : List Outcome}
    (d : Dialogue desk r outcomes) :
    (questionsOf outcomes).map (·.ambiguity) ⊆ urgency.map some := by
  intro asked h
  obtain ⟨q, hq, rfl⟩ := List.mem_map.1 h
  obtain ⟨o, ho, hq⟩ := List.mem_filterMap.1 hq
  obtain ⟨i, a, _, about, _⟩ := (d.gives o ho).exists_about hq
  rw [Question.ambiguity_of_about? about]
  refine List.mem_map_of_mem ((mem_urgency a).2 ?_)
  rintro rfl
  cases about

/-- There are at most as many questions as ambiguities that can be asked about. -/
theorem Dialogue.length_questionsOf_le {desk : Desk} {r : Request} {outcomes : List Outcome}
    (d : Dialogue desk r outcomes) : (questionsOf outcomes).length ≤ 7 := by
  have fits := (List.subperm_of_subset d.nodup_asked d.ambiguity_mem).length_le
  rw [List.length_map, List.length_map] at fits
  exact fits

theorem Dialogue.length_earlier {desk : Desk} {r : Request} {o : Outcome} {earlier : List Outcome}
    (d : Dialogue desk r (o :: earlier)) : earlier.length = (questionsOf earlier).length := by
  generalize all : o :: earlier = outcomes at d
  induction d generalizing o earlier with
  | start moment number h =>
    cases all
    rfl
  | @next before after others d h ih =>
    cases all
    obtain ⟨r, _, _, _, _, asked, _⟩ := h.exists_reply
    rw [questionsOf_cons, asked, List.length_cons, ih rfl]
    rfl

/-- Every outcome but the last has a question. -/
theorem Dialogue.length_le {desk : Desk} {r : Request} {outcomes : List Outcome}
    (d : Dialogue desk r outcomes) : outcomes.length ≤ (questionsOf outcomes).length + 1 := by
  cases outcomes with
  | nil => cases d
  | cons o earlier =>
    have := d.length_earlier
    rw [questionsOf_cons, List.length_append, List.length_cons]
    omega

/-- Each question can be answered by each of its choices, but for the one that cancels. -/
theorem resolve_of_mem_choices {desk : Desk} {o : Outcome} {r : Reply} {choice : Choice}
    (gives : Gives desk o) (asked : o.question = some r.question) (intent_eq : r.intent = o.intent)
    (offered : choice ∈ r.question.choices) (chosen : r.choice = choice.id) (moment : Moment)
    (number : Nat) :
    (r.choice = Question.cancelId → resolve desk moment number r = .error (cancelled r.choice)) ∧
      (r.choice ≠ Question.cancelId → ∃ o', resolve desk moment number r = .ok o') := by
  have is_found : (r.question.find? r.choice).isSome := by
    unfold Question.find?
    rw [List.find?_isSome]
    exact ⟨choice, offered, beq_of_eq chosen.symm⟩
  obtain ⟨found, h⟩ := Option.isSome_iff_exists.1 is_found
  constructor
  · intro cancels
    exact resolve_cancel desk moment number r cancels is_found
  · intro proceeds
    obtain ⟨t, ht⟩ := gives.exists_template asked (Question.find?_mem h).1
    rw [← intent_eq] at ht
    exact exists_resolve_eq_ok desk moment number h proceeds ht

/-- Dialogues end: no ambiguity is asked about twice, so there are at most seven questions and one
outcome more; and each of the choices offered has an outcome, but for the one that cancels. -/
theorem dialogue_ends (desk : Desk) (r : Request) (outcomes : List Outcome)
    (d : Dialogue desk r outcomes) :
    ((questionsOf outcomes).map (·.ambiguity)).Nodup ∧ (questionsOf outcomes).length ≤ 7 ∧
      outcomes.length ≤ 8 ∧
      ∀ o ∈ outcomes, ∀ question, o.question = some question → ∀ choice ∈ question.choices,
        ∀ moment number account confidence,
          let answer := resolve desk moment number
            { intent := o.intent, parameters := o.parameters, choice := choice.id, question, account
              confidence }
          (choice.id = Question.cancelId → ∃ f, answer = .error f ∧ f.code = .operationCancelled) ∧
            (choice.id ≠ Question.cancelId → ∃ o', answer = .ok o') := by
  have few := d.length_questionsOf_le
  have none_between := d.length_le
  refine ⟨d.nodup_asked, few, by omega, ?_⟩
  intro o ho question asked choice offered moment number account confidence
  obtain ⟨to_cancel, to_proceed⟩ := resolve_of_mem_choices (d.gives o ho)
    (r := { intent := o.intent, parameters := o.parameters, choice := choice.id, question, account
            confidence }) asked rfl offered rfl moment number
  exact ⟨fun cancels => ⟨_, to_cancel cancels, rfl⟩, to_proceed⟩

/-- Something about sixty thousand USDC. -/
def unclearSixtyThousand : Request where
  intent := .unknown
  entities := [{ kind := .amount, value := "60000", normalized := "60000" },
    { kind := .token, value := "USDC", normalized := "USDC" }]

/-- Four questions, about the intent, the direction, the protocol and the risk. -/
theorem unclearSixtyThousand_ends : ∃ outcomes, Dialogue {} unclearSixtyThousand outcomes ∧
    (questionsOf outcomes).map (·.ambiguity) = [some .riskConfirmation, some .missingProtocol,
      some .tokenDirection, some .unclearIntent] ∧
    ((questionsOf outcomes).map (·.ambiguity)).Nodup ∧ outcomes.length ≤ 8 := by
  have answered : (converse {} ⟨0, 0⟩ unclearSixtyThousand
      ["intent_swap", "from_token", "protocol_dragonswap", Question.proceedId]).toOption.any
      fun outcomes => (questionsOf outcomes).map (·.ambiguity) = [some .riskConfirmation,
        some .missingProtocol, some .tokenDirection, some .unclearIntent] := by
    decide +kernel
  obtain ⟨outcomes, ho, asked⟩ := exists_eq_ok_of_any answered
  have d := dialogue_of_converse ho
  obtain ⟨once, _, short, _⟩ := dialogue_ends {} unclearSixtyThousand outcomes d
  exact ⟨outcomes, d, of_decide_eq_true asked, once, short⟩

end Desk

end Teller
