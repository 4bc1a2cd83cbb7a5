import Teller.Proofs.Question.Asking
import Teller.Validation.Review

/-!
# Open questions

A review leaves a question open exactly if something is ambiguous: whatever is ambiguous can be
asked about, so an ambiguity never goes unasked because its question could not be built. The
question is about the most urgent ambiguity.

    mem_ambiguities               what is ambiguous about a subject
    openQuestion?_eq_none_iff     nothing is asked exactly if nothing is ambiguous
    asks_checkAmbiguities         something must be asked exactly if there is a question
    ambiguity_of_openQuestion?    the question is about the most urgent ambiguity
-/

namespace Teller.Review

open Ambiguity

/-- The check of one ambiguity, for what is under review. -/
def Subject.applies (s : Subject) (a : Ambiguity) : Bool :=
  Ambiguity.applies s.intent s.allEntities s.account
    (s.parameters.tuning.riskAcknowledged.getD false) a

/-- One of the two tokens of a swap is stated. -/
def Subject.isDirected (s : Subject) : Bool :=
  (stated? s.parameters.primary.fromToken).isSome || (stated? s.parameters.primary.toToken).isSome

/-- Everything that is ambiguous about a subject, the direction of a swap included. -/
def Subject.detected (s : Subject) : List Ambiguity :=
  detect s.intent s.allEntities s.account (s.parameters.tuning.riskAcknowledged.getD false)

theorem mem_detected (s : Subject) (a : Ambiguity) : a ∈ s.detected ↔ s.applies a = true :=
  mem_detect ..

theorem ambiguities_eq (s : Subject) :
    ambiguities s =
      if s.isDirected then s.detected.filter (· != .tokenDirection) else s.detected := rfl

/-- What is ambiguous about a subject. -/
theorem mem_ambiguities (s : Subject) (a : Ambiguity) :
    a ∈ ambiguities s ↔ s.applies a = true ∧ ¬(a = .tokenDirection ∧ s.isDirected = true) := by
  rw [ambiguities_eq]
  by_cases h : s.isDirected = true
  · rw [if_pos h, List.mem_filter, mem_detected]
    simp [h]
  · rw [if_neg h, mem_detected]
    simp [h]

theorem applies_of_mem_ambiguities {s : Subject} {a : Ambiguity} (h : a ∈ ambiguities s) :
    s.applies a = true :=
  ((mem_ambiguities s a).1 h).1

theorem exists_ask_inquiry_eq_ok (s : Subject) (h : ambiguities s ≠ []) :
    ∃ q, Question.ask (inquiry s) = .ok q :=
  Question.exists_ask_eq_ok (inquiry s) _ h fun _ ha => applies_of_mem_ambiguities ha

theorem openQuestion?_eq_some_iff (s : Subject) (q : Question) :
    openQuestion? s = some q ↔ ambiguities s ≠ [] ∧ Question.ask (inquiry s) = .ok q := by
  unfold openQuestion? checkAmbiguities
  by_cases h : ambiguities s = []
  · simp [h]
  · obtain ⟨q', hq'⟩ := exists_ask_inquiry_eq_ok s h
    simp [h, hq']

/-- Nothing is asked exactly if nothing is ambiguous. -/
theorem openQuestion?_eq_none_iff (s : Subject) :
    openQuestion? s = none ↔ ambiguities s = [] := by
  constructor
  · intro h
    by_cases found : ambiguities s = []
    · exact found
    · obtain ⟨q, hq⟩ := exists_ask_inquiry_eq_ok s found
      rw [(openQuestion?_eq_some_iff s q).2 ⟨found, hq⟩] at h
      cases h
  · intro h
    simp [openQuestion?, checkAmbiguities, h]

/-- Something must be asked exactly if there is a question. -/
theorem asks_checkAmbiguities (s : Subject) : (checkAmbiguities s).asks = (openQuestion? s).isSome := by
  unfold openQuestion? checkAmbiguities
  split
  · rfl
  · split <;> rfl

theorem checkAmbiguities_congr {s s' : Subject} (h : openQuestion? s = openQuestion? s') :
    checkAmbiguities s = checkAmbiguities s' := by
  have asks_eq : (checkAmbiguities s).asks = (checkAmbiguities s').asks := by
    rw [asks_checkAmbiguities, asks_checkAmbiguities, h]
  exact Doubt.ext asks_eq h

/-- A subject without a question has no ambiguity but perhaps the direction of a swap. -/
theorem not_applies_of_openQuestion?_eq_none {s : Subject} (h : openQuestion? s = none)
    {a : Ambiguity} (ha : a ≠ .tokenDirection) : s.applies a = false := by
  rw [openQuestion?_eq_none_iff] at h
  rw [← Bool.not_eq_true]
  intro applies
  have : a ∈ ambiguities s := (mem_ambiguities s a).2 ⟨applies, fun direction => ha direction.1⟩
  rw [h] at this
  cases this

/-- The question is about something that is ambiguous. -/
theorem about_openQuestion? {s : Subject} {q : Question} (h : openQuestion? s = some q) :
    ∃ a ∈ ambiguities s, Question.about? (inquiry s) a = .ok q := by
  obtain ⟨a, ha, hq⟩ := Question.ask_eq_ok ((openQuestion?_eq_some_iff s q).1 h).2
  exact ⟨a, ((mostUrgent?_eq_some_iff _ a).1 ha).2.1, hq⟩

/-- The question is about the most urgent ambiguity. -/
theorem ambiguity_of_openQuestion? {s : Subject} {q : Question} (h : openQuestion? s = some q) :
    q.ambiguity = mostUrgent? (ambiguities s) :=
  Question.ambiguity_of_ask ((openQuestion?_eq_some_iff s q).1 h).2

end Teller.Review
