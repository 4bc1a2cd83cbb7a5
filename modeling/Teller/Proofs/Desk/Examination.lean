import Teller.Desk.Answering
import Teller.Proofs.Question.Implied
import Teller.Proofs.Templates
import Teller.Proofs.Validation.Filing
import Teller.Proofs.Validation.OpenQuestion

/-!
# Examining a subject

An examined subject differs from the given one by what the account supplies, and that is at most one
token. So intent, execution, amounts, numbers and protocol stay as they were, what is ambiguous
stays ambiguous, and the review that is reported is the review of the examined subject.

    primary_examine             what was stated, with the inferred parameters entered
    mem_inferences_of?          only a token is ever inferred, and none for a swap
    detected_examine            inference leaves the ambiguities as they are
    errors_examine, question_examine
                                the report is about the examined subject
    asks_examine                it asks exactly if it has a question
    filed_examine               the report is filed by severity
-/

namespace Teller

/-! ## Ambiguities look at tokens only for a swap -/

theorem Ambiguity.detect_congr (intent : Intent) (account : Option Account)
    (riskAcknowledged : Bool) {entities entities' : List Entity}
    (h : ∀ kind, kind ≠ .token ∨ intent = .swap →
      Entity.ofKind kind entities = Entity.ofKind kind entities') :
    detect intent entities account riskAcknowledged =
      detect intent entities' account riskAcknowledged := by
  have amounts := h .amount (.inl (by decide))
  have protocols := h .protocol (.inl (by decide))
  have leverages := h .leverage (.inl (by decide))
  have slippages := h .slippage (.inl (by decide))
  have directions : lacksDirection intent entities = lacksDirection intent entities' := by
    unfold lacksDirection
    by_cases swap : intent = .swap
    · rw [amounts, h .token (.inr swap)]
    · rw [beq_false_of_ne swap]
      rfl
  unfold detect lacksProtocol namesProtocol hasConflict distinctNumbers needsConfirmation firstNumber?
  rw [directions, amounts, protocols, leverages, slippages]

namespace Review

/-! ## What can be inferred -/

theorem mem_inferences {s : Subject} {e : String × String} (h : e ∈ inferences s) :
    e.1 ∈ s.template.required ∧ isStated s.parameters.primary e.1 = false ∧
      infer? s.account e.1 = some e.2 := by
  obtain ⟨⟨field, value⟩, unstated_field, hv⟩ := List.mem_filterMap.1 (Table.mem_ofList h)
  obtain ⟨v, rfl, rfl⟩ := Option.map_eq_some_iff.1 hv
  obtain ⟨field', required, same⟩ := List.mem_map.1 unstated_field
  simp only [Prod.mk.injEq] at same
  obtain ⟨rfl, supplied⟩ := same
  obtain ⟨required, unstated⟩ := List.mem_filter.1 required
  exact ⟨required, by simpa using unstated, supplied⟩

theorem infer?_eq_some {account : Option Account} {field value : String}
    (h : infer? account field = some value) : field = "protocol" ∨ field = "token" := by
  obtain ⟨a, _, ha⟩ := Option.bind_eq_some_iff.1 h
  split at ha
  · exact .inl rfl
  · exact .inr rfl
  · cases ha

/-- Only a token is ever inferred, and none for a swap. -/
theorem mem_inferences_of? {s : Subject} (ht : Template.of? s.intent = some s.template)
    {e : String × String} (h : e ∈ inferences s) : e.1 = "token" ∧ s.intent ≠ .swap := by
  obtain ⟨required, _, supplied⟩ := mem_inferences h
  obtain ⟨known, same⟩ := Template.of?_eq_some ht
  rcases infer?_eq_some supplied with protocol | token
  · rw [protocol] at required
    exact absurd required (Template.protocol_not_required known)
  · refine ⟨token, fun swap => ?_⟩
    rw [token] at required
    exact Template.token_not_required_of_swap known (same.trans swap) required

theorem get?_inferences_of_ne {s : Subject} (ht : Template.of? s.intent = some s.template)
    {field : String} (h : field ≠ "token") : (inferences s).get? field = none := by
  cases found : (inferences s).get? field with
  | none => rfl
  | some value =>
    have token : field = "token" := (mem_inferences_of? ht (Table.mem_of_get?_eq_some found)).1
    exact absurd token h

theorem get?_inferences_protocol {s : Subject} (ht : Template.of? s.intent = some s.template) :
    (inferences s).get? "protocol" = none :=
  get?_inferences_of_ne ht (by decide)

end Review

namespace Desk

open Review

theorem kind_of_mem_inferredEntities {s : Subject} (ht : Template.of? s.intent = some s.template)
    {e : Entity} (h : e ∈ inferredEntities (inferences s)) : e.kind = .token ∧ s.intent ≠ .swap := by
  obtain ⟨⟨field, value⟩, inferred, he⟩ := List.mem_filterMap.1 h
  obtain ⟨kind, hk, rfl⟩ := Option.map_eq_some_iff.1 he
  obtain ⟨rfl, swap⟩ := mem_inferences_of? ht inferred
  cases hk
  exact ⟨rfl, swap⟩

theorem ofKind_inferredEntities {s : Subject} (ht : Template.of? s.intent = some s.template)
    (kind : Entity.Kind) (h : kind ≠ .token ∨ s.intent = .swap) :
    Entity.ofKind kind (inferredEntities (inferences s)) = [] := by
  unfold Entity.ofKind
  rw [List.filter_eq_nil_iff]
  intro e he same
  obtain ⟨token, swap⟩ := kind_of_mem_inferredEntities ht he
  rcases h with h | h
  · exact h ((eq_of_beq same).symm.trans token)
  · exact swap h

/-! ## The examined subject -/

section

variable (desk : Desk) (s : Subject)

theorem examine_cases :
    (inferences s = [] ∧ examine desk s = ⟨s, review desk.reviews desk.catalog s⟩) ∨
    ∃ estimates, (examine desk s).subject = { s with
        parameters := {
          primary := s.parameters.primary.revise (inferredRevision (inferences s))
          tuning := s.parameters.tuning
          estimates }
        entities := s.entities.map (· ++ inferredEntities (inferences s)) } ∧
      (examine desk s).review = { review desk.reviews desk.catalog (examine desk s).subject with
        warnings := (inferenceNotes s ++ (business desk.reviews s).warnings).filter
            (·.severity == .info) ++
          (review desk.reviews desk.catalog (examine desk s).subject).warnings } := by
  unfold examine
  dsimp only
  split
  · next h => exact .inl ⟨List.isEmpty_iff.1 h, rfl⟩
  · exact .inr ⟨_, rfl, rfl⟩

/-- Where nothing is inferred, the subject is reviewed as it is. -/
theorem examine_of_inferences_eq_nil (nothing : inferences s = []) :
    examine desk s = ⟨s, review desk.reviews desk.catalog s⟩ := by
  unfold examine
  dsimp only
  rw [if_pos (show (review desk.reviews desk.catalog s).inferred.isEmpty = true from
    List.isEmpty_iff.2 nothing)]

/-- The parameters of an examined subject, if the estimates of the given one were made from its own
parameters. -/
theorem parameters_examine (fresh : estimated desk s.intent s.template s.account s.parameters =
    s.parameters) : (examine desk s).subject.parameters =
      estimated desk s.intent s.template s.account
        (s.parameters.revise { primary := inferredRevision (inferences s) }) := by
  by_cases nothing : inferences s = []
  · rw [examine_of_inferences_eq_nil desk s nothing, nothing]
    exact fresh.symm
  · unfold examine
    dsimp only
    rw [if_neg (show ¬(review desk.reviews desk.catalog s).inferred.isEmpty = true from fun empty =>
      nothing (List.isEmpty_iff.1 empty))]
    rfl

@[simp] theorem intent_examine : (examine desk s).subject.intent = s.intent := by
  rcases examine_cases desk s with ⟨_, h⟩ | ⟨_, h, _⟩ <;> rw [h]

@[simp] theorem template_examine : (examine desk s).subject.template = s.template := by
  rcases examine_cases desk s with ⟨_, h⟩ | ⟨_, h, _⟩ <;> rw [h]

@[simp] theorem account_examine : (examine desk s).subject.account = s.account := by
  rcases examine_cases desk s with ⟨_, h⟩ | ⟨_, h, _⟩ <;> rw [h]

@[simp] theorem tuning_examine :
    (examine desk s).subject.parameters.tuning = s.parameters.tuning := by
  rcases examine_cases desk s with ⟨_, h⟩ | ⟨_, h, _⟩ <;> rw [h]

/-- What was stated, with the inferred parameters entered. -/
theorem primary_examine : (examine desk s).subject.parameters.primary =
    s.parameters.primary.revise (inferredRevision (inferences s)) := by
  rcases examine_cases desk s with ⟨nothing, h⟩ | ⟨_, h, _⟩
  · rw [h, nothing]
    rfl
  · rw [h]

theorem entities_examine : (examine desk s).subject.entities =
    s.entities.map (· ++ inferredEntities (inferences s)) := by
  rcases examine_cases desk s with ⟨nothing, h⟩ | ⟨_, h, _⟩
  · rw [h, nothing]
    simp [inferredEntities]
  · rw [h]

@[simp] theorem amount_examine :
    (examine desk s).subject.parameters.primary.amount = s.parameters.primary.amount := by
  rw [primary_examine]
  rfl

@[simp] theorem leverage_examine :
    (examine desk s).subject.parameters.primary.leverage = s.parameters.primary.leverage := by
  rw [primary_examine]
  rfl

@[simp] theorem slippage_examine :
    (examine desk s).subject.parameters.primary.slippage = s.parameters.primary.slippage := by
  rw [primary_examine]
  rfl

@[simp] theorem isDirected_examine : (examine desk s).subject.isDirected = s.isDirected := by
  unfold Subject.isDirected
  rw [primary_examine]
  rfl

theorem protocol_examine (ht : Template.of? s.intent = some s.template) :
    (examine desk s).subject.parameters.primary.protocol = s.parameters.primary.protocol := by
  rw [primary_examine]
  show ((inferences s).get? "protocol" |>.map some).getD _ = _
  rw [get?_inferences_protocol ht]
  rfl

/-! ## Its ambiguities -/

theorem inferences_eq_nil_of_swap (ht : Template.of? s.intent = some s.template)
    (swap : s.intent = .swap) : inferences s = [] := by
  rw [List.eq_nil_iff_forall_not_mem]
  intro e he
  exact (mem_inferences_of? ht he).2 swap

theorem ofKind_allEntities_examine (ht : Template.of? s.intent = some s.template)
    (kind : Entity.Kind) (h : kind ≠ .token ∨ s.intent = .swap) :
    Entity.ofKind kind (examine desk s).subject.allEntities =
      Entity.ofKind kind s.allEntities := by
  unfold Subject.allEntities
  rw [entities_examine]
  cases hs : s.entities with
  | some entities =>
    show Entity.ofKind kind (entities ++ _) = Entity.ofKind kind entities
    rw [Ambiguity.ofKind_append, ofKind_inferredEntities ht kind h, List.append_nil]
  | none =>
    show Entity.ofKind kind (Ambiguity.entitiesOf _) = Entity.ofKind kind (Ambiguity.entitiesOf _)
    by_cases token : kind = .token
    · rw [primary_examine, inferences_eq_nil_of_swap s ht (h.resolve_left (absurd token))]
      rfl
    · rw [Ambiguity.ofKind_implied _ kind token, Ambiguity.ofKind_implied _ kind token]
      cases kind with
      | token => exact absurd rfl token
      | protocol => simp only [Ambiguity.impliedText, protocol_examine desk s ht]
      | amount | leverage | slippage => simp [Ambiguity.impliedText]

/-- Inference leaves the ambiguities as they are. -/
theorem detected_examine (ht : Template.of? s.intent = some s.template) :
    (examine desk s).subject.detected = s.detected := by
  unfold Subject.detected
  rw [intent_examine, account_examine, tuning_examine]
  exact Ambiguity.detect_congr _ _ _ (ofKind_allEntities_examine desk s ht)

theorem ambiguities_examine (ht : Template.of? s.intent = some s.template) :
    ambiguities (examine desk s).subject = ambiguities s := by
  rw [ambiguities_eq, ambiguities_eq, detected_examine desk s ht, isDirected_examine]

/-! ## The report -/

theorem errors_examine : (examine desk s).review.errors =
    (review desk.reviews desk.catalog (examine desk s).subject).errors := by
  rcases examine_cases desk s with ⟨_, h⟩ | ⟨_, _, h⟩ <;> rw [h]

theorem question_examine :
    (examine desk s).review.question = openQuestion? (examine desk s).subject := by
  rcases examine_cases desk s with ⟨_, h⟩ | ⟨_, _, h⟩ <;> rw [h] <;> rfl

/-- The report asks exactly if it has a question. -/
theorem asks_examine : (examine desk s).review.asks = (examine desk s).review.question.isSome := by
  have asks_eq : (examine desk s).review.asks = (checkAmbiguities (examine desk s).subject).asks := by
    rcases examine_cases desk s with ⟨_, h⟩ | ⟨_, _, h⟩ <;> rw [h] <;> rfl
  rw [asks_eq, asks_checkAmbiguities, question_examine]

/-- The report is filed by severity: the notes that it takes over inform and nothing more. -/
theorem filed_examine : Finding.Filed (examine desk s).review.errors
    (examine desk s).review.warnings := by
  have reviewed := filed_review desk.reviews desk.catalog (examine desk s).subject
  rcases examine_cases desk s with ⟨_, h⟩ | ⟨_, _, h⟩
  · rw [h] at reviewed ⊢
    exact reviewed
  · rw [h]
    refine (Finding.Filed.of_warnings fun f hf => ?_).append reviewed
    rw [eq_of_beq (List.mem_filter.1 hf).2]
    exact nofun

end

end Desk

end Teller
