import Teller.Identifier
import Teller.Proofs.Question.Asking

/-!
# What choices revise

What the choices of a question revise follows from the ambiguity that it is about. A choice may name
a venue, and then one that serves the intent of the question. Only when the intent is unclear do
choices name an intent, and then they revise nothing else. Only contradicting slippages lead to
choices that revise the slippage, and no choice revises the permitted slippage.

    Offers                          what the choices about an ambiguity revise
    offers_of_about?                a question offers nothing else
    Choice.KeepsVenue               a choice names no intent, and no venue but a serving one
    keepsVenue_of_about?            choices about anything but the intent
    unclearIntent_choices           choices about the intent
    exists_slippage_choice          a choice between contradicting slippages can be made
    slippage_of_about?              choices that revise the slippage
-/

namespace Teller

/-- A choice names no intent, and no venue but one that serves the intent. -/
structure Choice.KeepsVenue (intent : Intent) (c : Choice) : Prop where
  intent_eq : c.intent = none
  protocol : c.revision.primary.protocol = none ∨
    ∃ v ∈ Venue.serving intent, c.revision.primary.protocol = some (some v.id)

namespace Ambiguity

/-- The numbers of a kind, if they contradict each other. -/
def contradicting (kind : Entity.Kind) (entities : List Entity) : List Float :=
  let numbers := distinctNumbers kind entities
  if numbers.length < 2 then [] else numbers.map (·.2)

end Ambiguity

namespace Question

open Ambiguity

/-- What the choices about an ambiguity revise, and the intents that they name. -/
inductive Offers (i : Inquiry) : Ambiguity → Option Intent → Parameters.Revision → Prop
  | intent (intent : Intent) : Offers i .unclearIntent (some intent) {}
  | given (token amount : String) : Offers i .tokenDirection none
      { primary :=
        { fromToken := some (some token), amount := some (some amount), token := some none } }
  | wanted (token : String) : Offers i .tokenDirection none
      { primary := { toToken := some (some token), token := some none } }
  | missingVenue (v : Venue) (serves : v ∈ Venue.serving i.intent) :
      Offers i .missingProtocol none { primary := { protocol := some (some v.id) } }
  | preferredVenue (v : Venue) (serves : v ∈ Venue.serving i.intent) :
      Offers i .protocolChoice none { primary := { protocol := some (some v.id) } }
  | amount (text : String) :
      Offers i .multipleAmounts none { primary := { amount := some (some text) } }
  | proceed : Offers i .riskConfirmation none { tuning := { riskAcknowledged := some (some true) } }
  | cancel : Offers i .riskConfirmation none {}
  | reduce : Offers i .riskConfirmation none
      { primary := reducedRisk i, tuning := { riskAcknowledged := some (some true) } }
  | leverage (x : Float) (stated : x ∈ contradicting .leverage i.entities) :
      Offers i .parameterConflict none { primary := { leverage := some (some x) } }
  | slippage (x : Float) (stated : x ∈ contradicting .slippage i.entities) :
      Offers i .parameterConflict none { primary := { slippage := some (some x) } }

variable {i : Inquiry} {q : Question} {c : Choice}

theorem offers_of_tokenDirection (h : tokenDirection i = .ok q) (hc : c ∈ q.choices) :
    Offers i .tokenDirection c.intent c.revision := by
  unfold tokenDirection at h
  split at h
  · rw [(of?_eq_ok h).1] at hc
    rcases List.mem_cons.1 hc with rfl | hc
    · exact .given ..
    · rw [List.mem_singleton.1 hc]
      exact .wanted _
  · cases h

theorem offers_of_riskConfirmation (hc : c ∈ (riskConfirmation i).choices) :
    Offers i .riskConfirmation c.intent c.revision := by
  rcases List.mem_cons.1 hc with rfl | hc
  · exact .proceed
  · rcases List.mem_cons.1 hc with rfl | hc
    · exact .cancel
    · rw [List.mem_singleton.1 hc]
      exact .reduce

theorem exists_mem_contradicting {kind : Entity.Kind} {revise : Float → Primary.Revision}
    (hc : c ∈ conflictChoices i kind revise) :
    ∃ x ∈ contradicting kind i.entities, c.intent = none ∧ c.revision = { primary := revise x } := by
  unfold conflictChoices at hc
  unfold contradicting
  dsimp only at hc ⊢
  split at hc
  · cases hc
  · next several =>
    rw [if_neg several]
    obtain ⟨n, hn, rfl⟩ := List.mem_mapIdx.1 hc
    exact ⟨_, List.mem_map_of_mem (List.getElem_mem hn), rfl, rfl⟩

theorem offers_of_parameterConflict (h : parameterConflict i = .ok q) (hc : c ∈ q.choices) :
    Offers i .parameterConflict c.intent c.revision := by
  rw [(of?_eq_ok h).1] at hc
  rcases List.mem_append.1 hc with hc | hc
  · obtain ⟨x, stated, intent_eq, revision_eq⟩ := exists_mem_contradicting hc
    rw [intent_eq, revision_eq]
    exact .leverage x stated
  · obtain ⟨x, stated, intent_eq, revision_eq⟩ := exists_mem_contradicting hc
    rw [intent_eq, revision_eq]
    exact .slippage x stated

/-- A question offers nothing else. -/
theorem offers_of_about? {a : Ambiguity} (h : about? i a = .ok q) (hc : c ∈ q.choices) :
    Offers i a c.intent c.revision := by
  cases a with
  | missingToken => cases h
  | riskConfirmation =>
    cases h
    exact offers_of_riskConfirmation hc
  | tokenDirection => exact offers_of_tokenDirection ((mapError_eq_ok_iff ..).1 h) hc
  | parameterConflict => exact offers_of_parameterConflict ((mapError_eq_ok_iff ..).1 h) hc
  | unclearIntent =>
    rw [about?, mapError_eq_ok_iff] at h
    rw [(of?_eq_ok h).1] at hc
    obtain ⟨_, _, rfl⟩ := List.mem_map.1 hc
    exact .intent _
  | missingProtocol =>
    rw [about?, mapError_eq_ok_iff] at h
    rw [(of?_eq_ok h).1] at hc
    obtain ⟨v, serves, rfl⟩ := List.mem_map.1 hc
    exact .missingVenue v serves
  | protocolChoice =>
    rw [about?, mapError_eq_ok_iff] at h
    rw [(of?_eq_ok h).1] at hc
    obtain ⟨v, serves, rfl⟩ := List.mem_map.1 hc
    exact .preferredVenue v serves
  | multipleAmounts =>
    rw [about?, mapError_eq_ok_iff] at h
    rw [(of?_eq_ok h).1] at hc
    obtain ⟨n, hn, rfl⟩ := List.mem_mapIdx.1 hc
    exact .amount _

/-! ## Venues -/

/-- Choices about anything but the intent. -/
theorem keepsVenue_of_about? {a : Ambiguity} (ha : a ≠ .unclearIntent) (h : about? i a = .ok q)
    (hc : c ∈ q.choices) : c.KeepsVenue i.intent := by
  have offers := offers_of_about? h hc
  obtain ⟨id, label, description, revision, confidence, intent⟩ := c
  cases offers with
  | intent => exact absurd rfl ha
  | missingVenue v serves | preferredVenue v serves => exact ⟨rfl, .inr ⟨v, serves, rfl⟩⟩
  | given | wanted | amount | proceed | cancel | reduce | leverage | slippage =>
    exact ⟨rfl, .inl rfl⟩

/-- Choices about the intent. -/
theorem unclearIntent_choices (h : unclearIntent = .ok q) (hc : c ∈ q.choices) :
    c.revision = {} := by
  rw [(of?_eq_ok h).1] at hc
  obtain ⟨_, _, rfl⟩ := List.mem_map.1 hc
  rfl

/-! ## Contradicting numbers -/

theorem find?_eq_some_of_unique (hc : c ∈ q.choices) (unique : ∀ c' ∈ q.choices, c'.id = c.id → c' = c) :
    q.find? c.id = some c := by
  cases h : q.find? c.id with
  | none => exact absurd (beq_self_eq_true c.id) (List.find?_eq_none.1 h c hc)
  | some c' =>
    obtain ⟨mem, same⟩ := find?_mem h
    rw [unique c' mem same]

section

variable {kind : Entity.Kind} {revise : Float → Primary.Revision}

theorem exists_conflictChoice {x : Float} (hx : x ∈ contradicting kind i.entities) :
    ∃ c ∈ conflictChoices i kind revise, c.intent = none ∧ c.revision = { primary := revise x } := by
  unfold contradicting at hx
  unfold conflictChoices
  dsimp only at hx ⊢
  split at hx
  · cases hx
  · next several =>
    rw [if_neg several]
    obtain ⟨⟨e, y⟩, mem, rfl⟩ := List.mem_map.1 hx
    obtain ⟨n, hn, at_n⟩ := List.getElem_of_mem mem
    refine ⟨_, List.mem_mapIdx.2 ⟨n, hn, rfl⟩, rfl, ?_⟩
    rw [at_n]

theorem head?_id_of_mem_conflictChoices (hc : c ∈ conflictChoices i kind revise) :
    c.id.toList.head? = kind.name.toList.head? := by
  unfold conflictChoices at hc
  dsimp only at hc
  split at hc
  · cases hc
  · obtain ⟨n, hn, rfl⟩ := List.mem_mapIdx.1 hc
    show (Identifier.short (kind.name ++ "_") n).toList.head? = _
    cases kind <;> exact Identifier.head?_short (by decide) n

theorem eq_of_mem_conflictChoices {c' : Choice} (hc : c ∈ conflictChoices i kind revise)
    (hc' : c' ∈ conflictChoices i kind revise) (same : c'.id = c.id) : c' = c := by
  unfold conflictChoices at hc hc'
  dsimp only at hc hc'
  split at hc
  · cases hc
  · next several =>
    rw [if_neg several] at hc'
    obtain ⟨n, hn, rfl⟩ := List.mem_mapIdx.1 hc
    obtain ⟨m, hm, rfl⟩ := List.mem_mapIdx.1 hc'
    have same_place : m = n := Identifier.short_injective same
    subst same_place
    rfl

end

/-- A choice between contradicting slippages is found by its identifier, and it does not cancel. -/
theorem exists_slippage_choice (h : parameterConflict i = .ok q) {x : Float}
    (hx : x ∈ contradicting .slippage i.entities) :
    ∃ c ∈ q.choices, q.find? c.id = some c ∧ c.id ≠ cancelId ∧ c.intent = none ∧
      c.revision = { primary := { slippage := some (some x) } } := by
  obtain ⟨c, hc, intent_eq, revision_eq⟩ := exists_conflictChoice hx
  have begins := head?_id_of_mem_conflictChoices hc
  have offered : c ∈ q.choices := by
    rw [(of?_eq_ok h).1]
    exact List.mem_append_right _ hc
  refine ⟨c, offered, find?_eq_some_of_unique offered ?_, ?_, intent_eq, revision_eq⟩
  · intro c' hc' same
    rw [(of?_eq_ok h).1] at hc'
    rcases List.mem_append.1 hc' with levers | slips
    · rw [← same, head?_id_of_mem_conflictChoices levers] at begins
      exact absurd begins (by decide)
    · exact eq_of_mem_conflictChoices hc slips same
  · intro cancels
    rw [cancels] at begins
    exact absurd begins (by decide)

/-- Choices that revise the slippage: to one of several that contradict each other. -/
theorem slippage_of_about? {a : Ambiguity} (h : about? i a = .ok q) (hc : c ∈ q.choices) :
    c.revision.tuning.maxSlippage = none ∧ (c.revision.primary.slippage = none ∨
      a = .parameterConflict ∧ ∃ x ∈ contradicting .slippage i.entities,
        c.revision.primary.slippage = some (some x)) := by
  have offers := offers_of_about? h hc
  obtain ⟨id, label, description, revision, confidence, intent⟩ := c
  cases offers with
  | slippage x stated => exact ⟨rfl, .inr ⟨rfl, x, stated, rfl⟩⟩
  | intent | given | wanted | missingVenue | preferredVenue | amount | proceed | cancel | reduce
  | leverage => exact ⟨rfl, .inl rfl⟩

end Question

end Teller
