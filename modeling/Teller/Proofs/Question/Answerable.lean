import Mathlib.Data.List.Nodup
import Teller.Proofs.Careful.Questions
import Teller.Proofs.Question.Choices

/-!
# What is ambiguous can be asked and answered

The identifiers of the choices of a question are fixed, or they are numbers or venues behind a start
that all of them share. No two choices have the same one, so that whatever is chosen is found again.

    distinct_of_about?               no two choices have the same identifier
    Answerable                       a question whose choices are all found again
    answerable_of_about?             every question is such a one
    exists_answerable_question       what is ambiguous can be asked and answered
-/

namespace Teller.Question

open Ambiguity

/-! ## Identifiers of choices -/

theorem nodup_numbered {α : Type} (start : String) {choice : Nat → α → Choice}
    (numbered : ∀ n x, (choice n x).id = Identifier.short start n) (xs : List α) :
    ((xs.mapIdx choice).map (·.id)).Nodup := by
  rw [List.nodup_iff_pairwise_ne, List.pairwise_map, List.pairwise_iff_getElem]
  intro m n hm hn lt same
  rw [List.getElem_mapIdx, List.getElem_mapIdx, numbered, numbered] at same
  have := Identifier.short_injective same
  omega

theorem nodup_serving (intent : Intent) : (Venue.serving intent).Nodup := by
  cases intent <;> decide

theorem nodup_venues {choice : Venue → Choice} {start : String}
    (named : ∀ v, (choice v).id = start ++ v.id) (intent : Intent) :
    (((Venue.serving intent).map choice).map (·.id)).Nodup := by
  rw [List.map_map]
  apply (nodup_serving intent).map
  intro v v' same
  have ids : start ++ v.id = start ++ v'.id := by
    rw [← named, ← named]
    exact same
  exact Venue.id_injective ((String.append_right_inj start).1 ids)

theorem nodup_intents :
    ((commonIntents.map fun (intent, label, description) =>
      intentChoice intent label description).map (·.id)).Nodup := by
  decide

theorem nodup_conflictChoices (i : Inquiry) (kind : Entity.Kind) (revise : Float → Primary.Revision) :
    ((conflictChoices i kind revise).map (·.id)).Nodup := by
  unfold conflictChoices
  dsimp only
  split
  · exact List.nodup_nil
  · exact nodup_numbered (kind.name ++ "_") (fun _ _ => rfl) _

/-- Leverages and slippages are numbered on their own, behind names that begin differently. -/
theorem nodup_conflicts (i : Inquiry) (raise slip : Float → Primary.Revision) :
    ((conflictChoices i .leverage raise ++ conflictChoices i .slippage slip).map (·.id)).Nodup := by
  rw [List.map_append, List.nodup_append]
  refine ⟨nodup_conflictChoices .., nodup_conflictChoices .., ?_⟩
  intro id hid id' hid' same
  obtain ⟨c, hc, rfl⟩ := List.mem_map.1 hid
  obtain ⟨c', hc', rfl⟩ := List.mem_map.1 hid'
  have begins := head?_id_of_mem_conflictChoices hc
  rw [same, head?_id_of_mem_conflictChoices hc'] at begins
  exact absurd begins (by decide)

variable {i : Inquiry} {a : Ambiguity} {q : Question}

/-- No two choices have the same identifier. -/
theorem distinct_of_about? (h : about? i a = .ok q) : (q.choices.map (·.id)).Nodup := by
  cases a with
  | missingToken => cases h
  | riskConfirmation =>
    cases h
    show [proceedId, cancelId, reduceId].Nodup
    decide
  | tokenDirection =>
    rw [about?, mapError_eq_ok_iff] at h
    unfold tokenDirection at h
    split at h
    · rw [(of?_eq_ok h).1]
      show ["from_token", "to_token"].Nodup
      decide
    · cases h
  | unclearIntent =>
    rw [about?, mapError_eq_ok_iff] at h
    rw [(of?_eq_ok h).1]
    exact nodup_intents
  | missingProtocol =>
    rw [about?, mapError_eq_ok_iff] at h
    rw [(of?_eq_ok h).1]
    exact nodup_venues (fun _ => rfl) i.intent
  | protocolChoice =>
    rw [about?, mapError_eq_ok_iff] at h
    rw [(of?_eq_ok h).1]
    exact nodup_venues (fun _ => rfl) i.intent
  | multipleAmounts =>
    rw [about?, mapError_eq_ok_iff] at h
    rw [(of?_eq_ok h).1]
    exact nodup_numbered "amount_" (fun _ _ => rfl) _
  | parameterConflict =>
    rw [about?, mapError_eq_ok_iff] at h
    rw [(of?_eq_ok h).1]
    exact nodup_conflicts ..

/-! ## Defaults -/

theorem default_of_of? {text : String} {timeout : Int} {whenEmpty : Fault} {offered : List Choice}
    (h : of? text timeout a whenEmpty offered = .ok q) : q.default = some q.first.id := by
  cases offered with
  | nil => cases h
  | cons first others =>
    cases h
    rfl

/-- The default is to cancel what is risky, and otherwise the first choice. -/
theorem default_of_about? (h : about? i a = .ok q) :
    q.default = some (if a = .riskConfirmation then cancelId else q.first.id) := by
  cases a with
  | missingToken => cases h
  | riskConfirmation =>
    cases h
    rfl
  | tokenDirection =>
    rw [about?, mapError_eq_ok_iff] at h
    unfold tokenDirection at h
    split at h
    · exact default_of_of? h
    · cases h
  | unclearIntent | missingProtocol | protocolChoice | multipleAmounts | parameterConflict =>
    rw [about?, mapError_eq_ok_iff] at h
    exact default_of_of? h

theorem exists_default (h : about? i a = .ok q) : ∃ c ∈ q.choices, q.default = some c.id := by
  rw [default_of_about? h]
  by_cases risk : a = .riskConfirmation
  · subst risk
    cases h
    exact ⟨_, List.mem_cons_of_mem _ List.mem_cons_self, rfl⟩
  · rw [if_neg risk]
    exact ⟨q.first, List.mem_cons_self, rfl⟩

/-! ## Answers -/

/-- A question that can be answered: its choices differ by their identifiers, one of them is the
default, and each of them revises the parameters as it is said to. -/
structure Answerable (q : Question) : Prop where
  distinct : (q.choices.map (·.id)).Nodup
  exists_default : ∃ c ∈ q.choices, q.default = some c.id
  answer_eq : ∀ c ∈ q.choices, ∀ p : Parameters, q.answer p c.id = .ok (p.revise c.revision)

theorem find?_eq_some_of_distinct (distinct : (q.choices.map (·.id)).Nodup) {c : Choice}
    (hc : c ∈ q.choices) : q.find? c.id = some c := by
  apply find?_eq_some_of_unique hc
  intro c' hc' same
  exact List.inj_on_of_nodup_map distinct hc' hc same

/-- Every question can be answered. -/
theorem answerable_of_about? (h : about? i a = .ok q) : q.Answerable where
  distinct := distinct_of_about? h
  exists_default := exists_default h
  answer_eq := by
    intro c hc p
    rw [answer, find?_eq_some_of_distinct (distinct_of_about? h) hc]

/-! ## From ambiguities to answers -/

/-- What is ambiguous can be asked and answered: there is a question about the most urgent of all
the ambiguities that are detected, it is composed from well-formed entities without a fault, and
each of its choices is found again. -/
theorem exists_answerable_question (intent : Intent) (entities : List Entity)
    (account : Option Account) (riskAcknowledged : Bool)
    (ambiguous : detect intent entities account riskAcknowledged ≠ []) :
    let found := detect intent entities account riskAcknowledged
    let i : Inquiry := { intent, entities, ambiguities := found, account }
    ∃ q, ask i = .ok q ∧ ((∀ e ∈ entities, e.IsRecognised) → Careful.ask i = .ok q) ∧
      (∃ a ∈ found, q.ambiguity = some a ∧ ∀ b ∈ found, b.priority ≤ a.priority) ∧
      q.Answerable := by
  intro found i
  have all_apply : ∀ a ∈ i.ambiguities,
      applies i.intent i.entities i.account riskAcknowledged a = true := by
    intro a ha
    exact (mem_detect ..).1 ha
  obtain ⟨q, hq⟩ := exists_ask_eq_ok i riskAcknowledged ambiguous all_apply
  obtain ⟨a, most_urgent, about⟩ := ask_eq_ok hq
  obtain ⟨_, mem, greatest⟩ := (mostUrgent?_eq_some_iff i.ambiguities a).1 most_urgent
  refine ⟨q, hq, ?_, ⟨a, mem, ambiguity_of_about? about, greatest⟩, answerable_of_about? about⟩
  intro recognised
  rw [Careful.ask_eq recognised]
  exact hq

/-- Two amounts, one of them not a number, and two leverages that contradict each other. -/
def doubtful : List Entity :=
  [{ kind := .amount, value := "lots", normalized := "nan" },
    { kind := .leverage, value := "20x", normalized := "20" },
    { kind := .amount, value := "1k", normalized := "1000" },
    { kind := .leverage, value := "3x", normalized := "3" }]

/-- A position with these is asked about its amount first. -/
theorem doubtful_position_answerable :
    let found := detect .openPosition doubtful none false
    found = [.multipleAmounts, .parameterConflict, .riskConfirmation] ∧
      ∃ q, ask { intent := .openPosition, entities := doubtful, ambiguities := found } = .ok q ∧
        q.ambiguity = some .multipleAmounts ∧ q.Answerable := by
  intro found
  have found_eq : found = [.multipleAmounts, .parameterConflict, .riskConfirmation] := by
    decide +kernel
  have ambiguous : found ≠ [] := by
    rw [found_eq]
    exact List.cons_ne_nil _ _
  obtain ⟨q, hq, _, _, answerable⟩ :=
    exists_answerable_question .openPosition doubtful none false ambiguous
  have first : mostUrgent? found = some .multipleAmounts := by
    rw [found_eq]
    decide
  exact ⟨found_eq, q, hq, (ambiguity_of_ask hq).trans first, answerable⟩

end Teller.Question
