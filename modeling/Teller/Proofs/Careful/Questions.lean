import Teller.Proofs.Careful.Parameters
import Teller.Proofs.Question.Asking

/-!
# Questions with care

A choice is a record that asks for a confidence between zero and one, and to reduce a risk the
amount is halved and written down again. Choices take their confidence from a fixed one or from an
entity, so that a question about well-formed entities is always composed as the desk composes it.

    entitiesOf_eq_ok             the entities that parameters imply can be written
    isConfidence_of_about?       choices are as confident as their entities
    ask_eq                       a question can be composed
-/

namespace Teller

/-- A confidence is neither below zero nor above one. -/
def isConfidence (x : Float) : Bool := !(x < 0) && !(1 < x)

/-- An entity that was recognised with a confidence. -/
def Entity.IsRecognised (e : Entity) : Prop := isConfidence e.confidence = true

namespace Careful

open Ambiguity

/-! ## Entities -/

def entitiesOf (p : Primary) : Except Fault (List Entity) := do
  let leverage ← p.leverage.mapM Number.plainOf
  let slippage ← p.slippage.mapM Number.plainOf
  return entityOf .amount p.amount ++ entityOf .token p.token ++ entityOf .token p.fromToken ++
    entityOf .token p.toToken ++ entityOf .protocol p.protocol ++ entityOf .leverage leverage ++
    entityOf .slippage slippage

/-- The entities that parameters imply can be written. -/
theorem entitiesOf_eq_ok (p : Primary) : entitiesOf p = .ok (Ambiguity.entitiesOf p) := by
  unfold entitiesOf
  rw [optionMapM_eq_ok fun x _ => Number.plainOf_eq_ok x,
    optionMapM_eq_ok fun x _ => Number.plainOf_eq_ok x]
  rfl

theorem isConfidence_one : isConfidence 1 = true := by decide +kernel

theorem isRecognised_of_mem_entityOf {kind : Entity.Kind} {text : Option String} {e : Entity}
    (h : e ∈ entityOf kind text) : e.IsRecognised := by
  unfold entityOf at h
  split at h
  · cases h
  · cases h
  · rw [List.mem_singleton.1 h]
    exact isConfidence_one

theorem isRecognised_of_mem_entitiesOf {p : Primary} {e : Entity} (h : e ∈ Ambiguity.entitiesOf p) :
    e.IsRecognised := by
  simp only [Ambiguity.entitiesOf, List.mem_append] at h
  rcases h with (((((h | h) | h) | h) | h) | h) | h <;> exact isRecognised_of_mem_entityOf h

/-! ## Choices -/

/-- A choice, which must have a confidence. -/
def checkedChoice (c : Choice) : Except Fault Choice :=
  if isConfidence c.confidence then .ok c else .error .invalidRecord

/-- A question, each of whose choices must have a confidence. -/
def checked (q : Question) : Except Fault Question := do
  return { q with first := ← checkedChoice q.first, others := ← q.others.mapM checkedChoice }

theorem checked_eq_ok {q : Question} (h : ∀ c ∈ q.choices, isConfidence c.confidence = true) :
    checked q = .ok q := by
  have choice_eq (c : Choice) (hc : c ∈ q.choices) : checkedChoice c = .ok (id c) :=
    if_pos (h c hc)
  unfold checked
  rw [choice_eq _ List.mem_cons_self,
    mapM_eq_ok fun c hc => choice_eq c (List.mem_cons_of_mem _ hc)]
  simp only [List.map_id, ok_bind, id]
  rfl

def reducedRisk (i : Inquiry) : Except Fault Primary.Revision := do
  let amount ← ((firstNumber? .amount i.entities).filter (· != 0)).mapM fun x =>
    Number.plainOf (x / 2)
  return { Question.reducedRisk i with amount := amount.map some }

/-- The choice to reduce the risk gets this revision; no other choice is changed. -/
def withReduction (reduced : Primary.Revision) (c : Choice) : Choice :=
  if c.id = Question.reduceId then { c with revision := { c.revision with primary := reduced } }
  else c

def riskConfirmation (i : Inquiry) : Except Fault Question := do
  let reduced ← reducedRisk i
  let q := Question.riskConfirmation i
  checked { q with others := q.others.map (withReduction reduced) }

def about? (i : Inquiry) (a : Ambiguity) : Except AskError Question :=
  match a with
  | .riskConfirmation => (riskConfirmation i).mapError .broken
  | a => do (checked (← Question.about? i a)).mapError .broken

def ask (i : Inquiry) : Except AskError Question :=
  match urgency.find? i.ambiguities.contains with
  | some a => about? i a
  | none => .error (.nothingToAsk i.ambiguities)

theorem reducedRisk_eq_ok (i : Inquiry) : reducedRisk i = .ok (Question.reducedRisk i) := by
  unfold reducedRisk
  rw [optionMapM_eq_ok fun x _ => Number.plainOf_eq_ok (x / 2), ok_bind, Option.map_map]
  rfl

/-! ## Confidence of choices -/

theorem mem_foldl_addDistinct {es : List Entity} {seen : List (Entity × Float)} {d : Entity × Float}
    (h : d ∈ es.foldl addDistinct seen) : d ∈ seen ∨ d.1 ∈ es := by
  induction es generalizing seen with
  | nil => exact .inl h
  | cons e rest ih =>
    rcases ih h with added | later
    · unfold addDistinct at added
      split at added
      · split at added
        · exact .inl added
        · rcases List.mem_append.1 added with before | new
          · exact .inl before
          · rw [List.mem_singleton.1 new]
            exact .inr List.mem_cons_self
      · exact .inl added
    · exact .inr (List.mem_cons_of_mem _ later)

theorem mem_of_mem_distinctNumbers {kind : Entity.Kind} {es : List Entity} {d : Entity × Float}
    (h : d ∈ distinctNumbers kind es) : d.1 ∈ es := by
  rcases mem_foldl_addDistinct h with none_before | mem
  · cases none_before
  · exact (List.mem_filter.1 mem).1

section

variable {i : Inquiry} {q : Question} {c : Choice}

theorem isConfidence_of_mem_conflictChoices (recognised : ∀ e ∈ i.entities, e.IsRecognised)
    {kind : Entity.Kind} {revise : Float → Primary.Revision}
    (hc : c ∈ Question.conflictChoices i kind revise) : isConfidence c.confidence = true := by
  unfold Question.conflictChoices at hc
  dsimp only at hc
  split at hc
  · cases hc
  · obtain ⟨n, hn, rfl⟩ := List.mem_mapIdx.1 hc
    exact recognised _ (mem_of_mem_distinctNumbers (List.getElem_mem hn))

theorem isConfidence_venueConfidence (v : Venue) :
    isConfidence (Question.venueConfidence i v) = true := by
  unfold Question.venueConfidence
  dsimp only
  split
  · decide +kernel
  · decide +kernel

/-- Choices are as confident as their entities, or have a fixed confidence. -/
theorem isConfidence_of_about? (recognised : ∀ e ∈ i.entities, e.IsRecognised) {a : Ambiguity}
    (h : Question.about? i a = .ok q) (hc : c ∈ q.choices) : isConfidence c.confidence = true := by
  have eight : isConfidence 0.8 = true := by decide +kernel
  have nine : isConfidence 0.9 = true := by decide +kernel
  cases a with
  | missingToken => cases h
  | riskConfirmation =>
    cases h
    rcases List.mem_cons.1 hc with rfl | hc
    · exact nine
    · rcases List.mem_cons.1 hc with rfl | hc
      · exact nine
      · rw [List.mem_singleton.1 hc]
        exact eight
  | tokenDirection =>
    rw [Question.about?, mapError_eq_ok_iff] at h
    unfold Question.tokenDirection at h
    split at h
    · rw [(Question.of?_eq_ok h).1] at hc
      rcases List.mem_cons.1 hc with rfl | hc
      · exact eight
      · rw [List.mem_singleton.1 hc]
        exact eight
    · cases h
  | parameterConflict =>
    rw [Question.about?, mapError_eq_ok_iff] at h
    rw [(Question.of?_eq_ok h).1] at hc
    rcases List.mem_append.1 hc with hc | hc
    · exact isConfidence_of_mem_conflictChoices recognised hc
    · exact isConfidence_of_mem_conflictChoices recognised hc
  | unclearIntent =>
    rw [Question.about?, mapError_eq_ok_iff] at h
    rw [(Question.of?_eq_ok h).1] at hc
    obtain ⟨_, _, rfl⟩ := List.mem_map.1 hc
    exact nine
  | missingProtocol =>
    rw [Question.about?, mapError_eq_ok_iff] at h
    rw [(Question.of?_eq_ok h).1] at hc
    obtain ⟨v, _, rfl⟩ := List.mem_map.1 hc
    exact isConfidence_venueConfidence v
  | protocolChoice =>
    rw [Question.about?, mapError_eq_ok_iff] at h
    rw [(Question.of?_eq_ok h).1] at hc
    obtain ⟨v, _, rfl⟩ := List.mem_map.1 hc
    show isConfidence 0.85 = true
    decide +kernel
  | multipleAmounts =>
    rw [Question.about?, mapError_eq_ok_iff] at h
    rw [(Question.of?_eq_ok h).1] at hc
    obtain ⟨n, hn, rfl⟩ := List.mem_mapIdx.1 hc
    exact recognised _ (List.mem_filter.1 (List.getElem_mem hn)).1

end

/-! ## Questions -/

theorem riskConfirmation_eq_ok {i : Inquiry} (recognised : ∀ e ∈ i.entities, e.IsRecognised) :
    riskConfirmation i = .ok (Question.riskConfirmation i) := by
  have composed : { Question.riskConfirmation i with
      others := (Question.riskConfirmation i).others.map (withReduction (Question.reducedRisk i)) } =
      Question.riskConfirmation i := by
    have others_differ : Question.cancelId ≠ Question.reduceId := by decide
    simp [Question.riskConfirmation, withReduction, others_differ]
  unfold riskConfirmation
  rw [reducedRisk_eq_ok, ok_bind]
  dsimp only
  rw [composed]
  exact checked_eq_ok fun c hc => isConfidence_of_about? recognised
    (show Question.about? i .riskConfirmation = .ok (Question.riskConfirmation i) from rfl) hc

/-- About well-formed entities a question is composed as the desk composes it. -/
theorem ask_eq {i : Inquiry} (recognised : ∀ e ∈ i.entities, e.IsRecognised) :
    ask i = Question.ask i := by
  have checked_after (a : Ambiguity) :
      (do (checked (← Question.about? i a)).mapError AskError.broken) = Question.about? i a := by
    cases h : Question.about? i a with
    | error e => rfl
    | ok q =>
      rw [ok_bind, checked_eq_ok fun c hc => isConfidence_of_about? recognised h hc]
      rfl
  unfold ask Question.ask
  cases urgency.find? i.ambiguities.contains with
  | none => rfl
  | some a =>
    dsimp only
    cases a with
    | riskConfirmation =>
      rw [about?, riskConfirmation_eq_ok recognised]
      rfl
    | missingProtocol | missingToken | tokenDirection | multipleAmounts | unclearIntent
    | protocolChoice | parameterConflict => exact checked_after _

end Careful

end Teller
