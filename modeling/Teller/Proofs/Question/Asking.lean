import Teller.Proofs.Success
import Teller.Question.Asking

/-!
# What is ambiguous can be asked about

Each way of being ambiguous has a check of its own, and detection finds exactly the ways whose check
holds. About every detected ambiguity there is a question with at least one choice, and of several
the most urgent one is asked about.

    mem_detect                    detection finds what applies
    mostUrgent?_eq_some_iff       the most urgent of several ambiguities
    exists_about?_eq_ok           what applies can be asked about
    ambiguity_of_ask              a question is about the most urgent ambiguity
    exists_ask_eq_ok              if anything applies, something is asked
-/

namespace Teller

/-! ## Detection -/

namespace Ambiguity

/-- The check of one ambiguity. Whether a token is missing is never checked. -/
def applies (intent : Intent) (entities : List Entity) (account : Option Account)
    (riskAcknowledged : Bool) : Ambiguity → Bool
  | missingProtocol => lacksProtocol intent entities
  | tokenDirection => lacksDirection intent entities
  | multipleAmounts => 1 < (Entity.ofKind .amount entities).length
  | unclearIntent => intent == .unknown
  | protocolChoice =>
    Venue.hasChoice intent (namesProtocol entities) ((account.map (·.protocols)).getD [])
  | parameterConflict => hasConflict entities
  | riskConfirmation => !riskAcknowledged && needsConfirmation intent entities
  | missingToken => false

theorem mem_detect (intent : Intent) (entities : List Entity) (account : Option Account)
    (riskAcknowledged : Bool) (a : Ambiguity) :
    a ∈ detect intent entities account riskAcknowledged ↔
      applies intent entities account riskAcknowledged a = true := by
  cases a <;> simp [detect, applies]

/-! ## Urgency -/

/-- The most urgent of several ambiguities, among those that can be asked about. -/
def mostUrgent? (found : List Ambiguity) : Option Ambiguity := urgency.find? found.contains

theorem mem_urgency (a : Ambiguity) : a ∈ urgency ↔ a ≠ missingToken := by
  cases a <;> decide

theorem urgency_descending : urgency.Pairwise fun a b => b.priority < a.priority := by
  decide

/-- In a list with falling keys the first element that passes has the greatest key of all that do.
-/
theorem find?_eq_some_iff_of_descending {α : Type} (key : α → Nat) (l : List α)
    (hl : l.Pairwise fun a b => key b < key a) (p : α → Bool) (x : α) :
    l.find? p = some x ↔ x ∈ l ∧ p x = true ∧ ∀ y ∈ l, p y = true → key y ≤ key x := by
  induction l with
  | nil => simp
  | cons a l ih =>
    obtain ⟨ha, hl⟩ := List.pairwise_cons.1 hl
    by_cases hp : p a = true
    · rw [List.find?_cons_of_pos hp]
      constructor
      · intro h
        cases h
        refine ⟨List.mem_cons_self, hp, ?_⟩
        intro y hy _
        rcases List.mem_cons.1 hy with rfl | hy
        · omega
        · have := ha y hy
          omega
      · rintro ⟨hx, _, greatest⟩
        rcases List.mem_cons.1 hx with rfl | hx
        · rfl
        · have := ha x hx
          have := greatest a List.mem_cons_self hp
          omega
    · rw [List.find?_cons_of_neg hp, ih hl]
      constructor
      · rintro ⟨hx, hpx, greatest⟩
        refine ⟨List.mem_cons_of_mem _ hx, hpx, ?_⟩
        intro y hy hpy
        rcases List.mem_cons.1 hy with rfl | hy
        · exact absurd hpy hp
        · exact greatest y hy hpy
      · rintro ⟨hx, hpx, greatest⟩
        rcases List.mem_cons.1 hx with rfl | hx
        · exact absurd hpx hp
        · exact ⟨hx, hpx, fun y hy => greatest y (List.mem_cons_of_mem _ hy)⟩

theorem mostUrgent?_eq_some_iff (found : List Ambiguity) (a : Ambiguity) :
    mostUrgent? found = some a ↔
      a ≠ missingToken ∧ a ∈ found ∧ ∀ b ∈ found, b.priority ≤ a.priority := by
  unfold mostUrgent?
  rw [find?_eq_some_iff_of_descending priority urgency urgency_descending]
  simp only [mem_urgency, List.contains_iff_mem]
  constructor
  · rintro ⟨ha, found_a, greatest⟩
    refine ⟨ha, found_a, fun b hb => ?_⟩
    -- a missing token has the least priority of all, so nothing is lost by leaving it out
    by_cases hm : b = missingToken
    · rw [hm]
      exact Nat.zero_le _
    · exact greatest b hm hb
  · rintro ⟨ha, found_a, greatest⟩
    exact ⟨ha, found_a, fun b _ hb => greatest b hb⟩

theorem mostUrgent?_isSome {found : List Ambiguity} {a : Ambiguity} (h : a ∈ found)
    (ha : a ≠ missingToken) : ∃ b ∈ found, mostUrgent? found = some b := by
  cases hb : mostUrgent? found with
  | none =>
    have none_found := List.find?_eq_none.1 hb a ((mem_urgency a).2 ha)
    exact absurd (List.contains_iff_mem.2 h) none_found
  | some b => exact ⟨b, ((mostUrgent?_eq_some_iff found b).1 hb).2.1, rfl⟩

end Ambiguity

/-! ## Questions -/

namespace Question

open Ambiguity

theorem of?_eq_ok {text : String} {timeout : Int} {a : Ambiguity} {whenEmpty : Fault}
    {offered : List Choice} {q : Question} (h : of? text timeout a whenEmpty offered = .ok q) :
    q.choices = offered ∧ q.ambiguity = some a := by
  cases offered with
  | nil => cases h
  | cons first others =>
    cases h
    exact ⟨rfl, rfl⟩

theorem exists_of?_eq_ok (text : String) (timeout : Int) (a : Ambiguity) (whenEmpty : Fault)
    {offered : List Choice} (h : offered ≠ []) :
    ∃ q, of? text timeout a whenEmpty offered = .ok q := by
  cases offered with
  | nil => exact absurd rfl h
  | cons first others => exact ⟨_, rfl⟩

theorem conflictChoices_ne_nil (i : Inquiry) (kind : Entity.Kind)
    (revise : Float → Primary.Revision) (h : 1 < (distinctNumbers kind i.entities).length) :
    conflictChoices i kind revise ≠ [] := by
  have several : ¬(distinctNumbers kind i.entities).length < 2 := by omega
  intro hn
  have := congrArg List.length hn
  simp only [conflictChoices, if_neg several, List.length_mapIdx, List.length_nil] at this
  omega

theorem serving_ne_nil_of_lacksProtocol {intent : Intent} {entities : List Entity}
    (h : lacksProtocol intent entities = true) : Venue.serving intent ≠ [] := by
  intro hn
  simp [lacksProtocol, hn] at h

theorem serving_ne_nil_of_hasChoice {intent : Intent} {named : Bool} {used : List String}
    (h : Venue.hasChoice intent named used = true) : Venue.serving intent ≠ [] := by
  intro hn
  simp [Venue.hasChoice, hn] at h

theorem exists_tokenDirection_eq_ok {i : Inquiry}
    (h : lacksDirection i.intent i.entities = true) : ∃ q, tokenDirection i = .ok q := by
  simp only [lacksDirection, Bool.and_eq_true, beq_iff_eq] at h
  obtain ⟨⟨_, one_token⟩, one_amount⟩ := h
  obtain ⟨t, ht⟩ := List.length_eq_one_iff.1 one_token
  obtain ⟨a, ha⟩ := List.length_eq_one_iff.1 one_amount
  simp only [tokenDirection, ht, ha, List.head?_cons]
  exact ⟨_, rfl⟩

theorem exists_missingProtocol_eq_ok {i : Inquiry} (h : Venue.serving i.intent ≠ []) :
    ∃ q, missingProtocol i = .ok q := by
  unfold missingProtocol
  apply exists_of?_eq_ok
  intro hn
  exact h (List.map_eq_nil_iff.1 hn)

theorem exists_protocolChoice_eq_ok {i : Inquiry} (h : Venue.serving i.intent ≠ []) :
    ∃ q, protocolChoice i = .ok q := by
  unfold protocolChoice
  apply exists_of?_eq_ok
  intro hn
  exact h (List.map_eq_nil_iff.1 hn)

theorem exists_multipleAmounts_eq_ok {i : Inquiry}
    (h : 1 < (Entity.ofKind .amount i.entities).length) : ∃ q, multipleAmounts i = .ok q := by
  unfold multipleAmounts
  apply exists_of?_eq_ok
  intro hn
  rw [List.mapIdx_eq_nil_iff] at hn
  rw [hn, List.length_nil] at h
  omega

theorem exists_parameterConflict_eq_ok {i : Inquiry} (h : hasConflict i.entities = true) :
    ∃ q, parameterConflict i = .ok q := by
  unfold parameterConflict
  apply exists_of?_eq_ok
  intro hn
  obtain ⟨no_leverage, no_slippage⟩ := List.append_eq_nil_iff.1 hn
  rcases Bool.or_eq_true_iff.1 h with conflict | conflict
  · exact conflictChoices_ne_nil i _ _ (of_decide_eq_true conflict) no_leverage
  · exact conflictChoices_ne_nil i _ _ (of_decide_eq_true conflict) no_slippage

/-- What applies can be asked about. -/
theorem exists_about?_eq_ok (i : Inquiry) (riskAcknowledged : Bool) (a : Ambiguity)
    (h : applies i.intent i.entities i.account riskAcknowledged a = true) :
    ∃ q, about? i a = .ok q := by
  cases a with
  | unclearIntent => exact ⟨_, rfl⟩
  | riskConfirmation => exact ⟨_, rfl⟩
  | missingToken => cases h
  | tokenDirection =>
    obtain ⟨q, hq⟩ := exists_tokenDirection_eq_ok h
    exact ⟨q, (mapError_eq_ok_iff ..).2 hq⟩
  | missingProtocol =>
    obtain ⟨q, hq⟩ := exists_missingProtocol_eq_ok (serving_ne_nil_of_lacksProtocol h)
    exact ⟨q, (mapError_eq_ok_iff ..).2 hq⟩
  | protocolChoice =>
    obtain ⟨q, hq⟩ := exists_protocolChoice_eq_ok (serving_ne_nil_of_hasChoice h)
    exact ⟨q, (mapError_eq_ok_iff ..).2 hq⟩
  | multipleAmounts =>
    obtain ⟨q, hq⟩ := exists_multipleAmounts_eq_ok (of_decide_eq_true h)
    exact ⟨q, (mapError_eq_ok_iff ..).2 hq⟩
  | parameterConflict =>
    obtain ⟨q, hq⟩ := exists_parameterConflict_eq_ok h
    exact ⟨q, (mapError_eq_ok_iff ..).2 hq⟩

theorem ambiguity_of_about? {i : Inquiry} {a : Ambiguity} {q : Question}
    (h : about? i a = .ok q) : q.ambiguity = some a := by
  cases a with
  | missingToken => cases h
  | riskConfirmation | unclearIntent =>
    cases h
    rfl
  | tokenDirection =>
    rw [about?, mapError_eq_ok_iff] at h
    unfold tokenDirection at h
    split at h
    · exact (of?_eq_ok h).2
    · cases h
  | missingProtocol | multipleAmounts | protocolChoice | parameterConflict =>
    rw [about?, mapError_eq_ok_iff] at h
    exact (of?_eq_ok h).2

theorem ask_eq_ok {i : Inquiry} {q : Question} (h : ask i = .ok q) :
    ∃ a, mostUrgent? i.ambiguities = some a ∧ about? i a = .ok q := by
  unfold ask at h
  cases ha : urgency.find? i.ambiguities.contains with
  | none =>
    rw [ha] at h
    cases h
  | some a =>
    rw [ha] at h
    exact ⟨a, ha, h⟩

theorem ask_eq_about? {i : Inquiry} {a : Ambiguity} (h : mostUrgent? i.ambiguities = some a) :
    ask i = about? i a := by
  have found : urgency.find? i.ambiguities.contains = some a := h
  simp only [ask, found]

/-- A question is about the most urgent ambiguity. -/
theorem ambiguity_of_ask {i : Inquiry} {q : Question} (h : ask i = .ok q) :
    q.ambiguity = mostUrgent? i.ambiguities := by
  obtain ⟨a, ha, hq⟩ := ask_eq_ok h
  rw [ambiguity_of_about? hq, ha]

/-- If everything that is to be asked about applies, and there is something, it is asked. -/
theorem exists_ask_eq_ok (i : Inquiry) (riskAcknowledged : Bool) (some_found : i.ambiguities ≠ [])
    (h : ∀ a ∈ i.ambiguities, applies i.intent i.entities i.account riskAcknowledged a = true) :
    ∃ q, ask i = .ok q := by
  obtain ⟨a, ha⟩ := List.exists_mem_of_ne_nil _ some_found
  have askable : a ≠ missingToken := by
    rintro rfl
    exact absurd (h _ ha) Bool.false_ne_true
  obtain ⟨b, hb, hu⟩ := mostUrgent?_isSome ha askable
  obtain ⟨q, hq⟩ := exists_about?_eq_ok i riskAcknowledged b (h b hb)
  exact ⟨q, (ask_eq_about? hu).trans hq⟩

end Question

end Teller
