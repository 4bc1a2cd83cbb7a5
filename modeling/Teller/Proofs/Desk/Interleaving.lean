import Teller.Proofs.Careful.Answers
import Teller.Proofs.Desk.Alike
import Teller.Proofs.Desk.Choosing

/-!
# Interleaving does not matter

Entities of different kinds may come in any order among each other, as long as those of one kind
stay in theirs. Whatever looks at entities looks at those of one kind, so normalization, extraction,
detection and questions lead to the same answer. The text that was typed is only quoted by a handler
that no request calls upon.

    sameByKind_normalize        normalization keeps entities the same kind by kind
    primaryOf_congr             they state the same
    ask_congr                   they are asked about in the same way
    process_congr               they lead to the same outcome
    answer_eq_parse             the text is not quoted
    interleaving                requests whose entities are the same kind by kind are answered alike
-/

namespace Teller

/-- Lists of entities that may differ in how the kinds are interleaved. -/
def Entity.SameByKind (es es' : List Entity) : Prop := ∀ kind, ofKind kind es = ofKind kind es'

namespace Desk

open Ambiguity Review

variable {es es' : List Entity}

theorem sameByKind_append (h : Entity.SameByKind es es') (added : List Entity) :
    Entity.SameByKind (es ++ added) (es' ++ added) := by
  intro kind
  rw [ofKind_append, ofKind_append, h kind]

/-- Normalization keeps entities the same kind by kind. -/
theorem sameByKind_normalize (desk : Desk) (account : Option Account)
    (h : Entity.SameByKind es es') :
    Entity.SameByKind (normalize desk es account) (normalize desk es' account) := by
  intro kind
  have first : firstToken? desk es = firstToken? desk es' := by
    unfold firstToken?
    rw [h .token]
  rw [ofKind_normalize, ofKind_normalize, first, h kind]

/-! ## Extraction -/

theorem firstText?_congr (kind : Entity.Kind) (h : Entity.SameByKind es es') :
    firstText? kind es = firstText? kind es' := by
  unfold firstText?
  rw [h kind]

/-- Entities that are the same kind by kind state the same. -/
theorem primaryOf_congr (deadline : Int) (h : Entity.SameByKind es es') :
    primaryOf deadline es = primaryOf deadline es' := by
  unfold primaryOf
  rw [h .token, firstText?_congr .amount h, firstText?_congr .protocol h,
    firstText?_congr .leverage h, firstText?_congr .slippage h]

theorem extract_congr (desk : Desk) (moment : Moment) (intent : Intent) (template : Option Template)
    (account : Option Account) (h : Entity.SameByKind es es') :
    extract desk moment intent template account es =
      extract desk moment intent template account es' := by
  unfold extract
  rw [primaryOf_congr _ h]

end Desk

/-! ## Questions -/

namespace Question

open Ambiguity

variable {intent : Intent} {es es' : List Entity} {found : List Ambiguity} {account : Option Account}

theorem firstNumber?_congr (kind : Entity.Kind) (h : Entity.SameByKind es es') :
    firstNumber? kind es = firstNumber? kind es' := by
  unfold firstNumber?
  rw [h kind]

theorem conflictChoices_congr (h : Entity.SameByKind es es') (kind : Entity.Kind)
    (revise : Float → Primary.Revision) :
    conflictChoices ⟨intent, es, found, account⟩ kind revise =
      conflictChoices ⟨intent, es', found, account⟩ kind revise := by
  unfold conflictChoices distinctNumbers
  dsimp only
  rw [h kind]

theorem about?_congr (h : Entity.SameByKind es es') (a : Ambiguity) :
    about? ⟨intent, es, found, account⟩ a = about? ⟨intent, es', found, account⟩ a := by
  cases a with
  | unclearIntent | missingToken | missingProtocol | protocolChoice => rfl
  | tokenDirection =>
    unfold about? tokenDirection
    dsimp only
    rw [h .token, h .amount]
  | multipleAmounts =>
    unfold about? multipleAmounts
    dsimp only
    rw [h .amount]
  | riskConfirmation =>
    refine congrArg Except.ok (riskConfirmation_congr (firstNumber?_congr .amount h) ?_)
    rw [firstNumber?_congr .leverage h]
  | parameterConflict =>
    unfold about? parameterConflict
    rw [conflictChoices_congr h, conflictChoices_congr h]

/-- Entities that are the same kind by kind are asked about in the same way. -/
theorem ask_congr (h : Entity.SameByKind es es') :
    ask ⟨intent, es, found, account⟩ = ask ⟨intent, es', found, account⟩ := by
  unfold ask
  cases urgency.find? found.contains with
  | none => rfl
  | some a => exact about?_congr h a

end Question

namespace Desk

open Ambiguity Review

variable {es es' : List Entity}

/-! ## Reviews -/

def withEntities (s : Subject) (es : List Entity) : Subject := { s with entities := some es }

theorem detect_congr_sameByKind (intent : Intent) (account : Option Account) (acknowledged : Bool)
    (h : Entity.SameByKind es es') :
    detect intent es account acknowledged = detect intent es' account acknowledged :=
  Ambiguity.detect_congr intent account acknowledged fun kind _ => h kind

theorem openQuestion?_congr (s : Subject) (h : Entity.SameByKind es es') :
    openQuestion? (withEntities s es) = openQuestion? (withEntities s es') := by
  have found : ambiguities (withEntities s es) = ambiguities (withEntities s es') := by
    unfold ambiguities
    dsimp only
    rw [show (withEntities s es).allEntities = es from rfl,
      show (withEntities s es').allEntities = es' from rfl, detect_congr_sameByKind _ _ _ h]
    rfl
  have asked : Question.ask (inquiry (withEntities s es)) =
      Question.ask (inquiry (withEntities s es')) := by
    unfold inquiry
    rw [found]
    exact Question.ask_congr h
  unfold openQuestion? checkAmbiguities
  rw [found, asked]

/-- Entities that are the same kind by kind are reviewed alike. -/
theorem review_congr_sameByKind (desk : Desk) (s : Subject) (h : Entity.SameByKind es es') :
    review desk.reviews desk.catalog (withEntities s es) =
      review desk.reviews desk.catalog (withEntities s es') := by
  unfold review
  rw [checkAmbiguities_congr (openQuestion?_congr s h)]
  rfl

/-- A subject with the inferred parameters entered. -/
def completed (desk : Desk) (s : Subject) : Subject := { s with
  parameters := estimated desk s.intent s.template s.account
    (s.parameters.revise { primary := inferredRevision (inferences s) })
  entities := s.entities.map (· ++ inferredEntities (inferences s)) }

/-- Where something is inferred, the completed subject is reviewed after the given one. -/
theorem examine_of_inferences_ne_nil (desk : Desk) {s : Subject} (inferred : inferences s ≠ []) :
    examine desk s = ⟨completed desk s,
      { review desk.reviews desk.catalog (completed desk s) with
        warnings := (review desk.reviews desk.catalog s).warnings.filter (·.severity == .info) ++
          (review desk.reviews desk.catalog (completed desk s)).warnings }⟩ := by
  have first : ¬(review desk.reviews desk.catalog s).inferred.isEmpty = true := fun empty =>
    inferred (List.isEmpty_iff.1 empty)
  unfold examine
  dsimp only
  rw [if_neg first]
  rfl

theorem completed_withEntities (desk : Desk) (s : Subject) (es : List Entity) :
    completed desk (withEntities s es) =
      withEntities (completed desk s) (es ++ inferredEntities (inferences s)) := rfl

/-- Examination keeps entities the same kind by kind, and all else is equal. -/
theorem examine_congr (desk : Desk) (s : Subject) (h : Entity.SameByKind es es') :
    ∃ (t : Subject) (found : Review) (xs xs' : List Entity),
      examine desk (withEntities s es) = ⟨withEntities t xs, found⟩ ∧
        examine desk (withEntities s es') = ⟨withEntities t xs', found⟩ := by
  have first := review_congr_sameByKind desk s h
  have second := review_congr_sameByKind desk (completed desk s)
    (sameByKind_append h (inferredEntities (inferences s)))
  by_cases nothing : inferences s = []
  · have examined (es : List Entity) := examine_of_inferences_eq_nil desk (withEntities s es) nothing
    rw [examined es, examined es', first]
    exact ⟨s, _, es, es', rfl, rfl⟩
  · have examined (es : List Entity) :=
      examine_of_inferences_ne_nil desk (s := withEntities s es) nothing
    rw [examined es, examined es', completed_withEntities, completed_withEntities, first, second]
    exact ⟨completed desk s, _, _, _, rfl, rfl⟩

/-! ## Answers -/

/-- What is concluded does not depend on entities. -/
theorem conclude_congr (desk : Desk) (moment : Moment) (number : Nat) (confidence : Float) (s : Subject)
    (found : Review) (es es' : List Entity) :
    conclude desk moment number confidence ⟨withEntities s es, found⟩ =
      conclude desk moment number confidence ⟨withEntities s es', found⟩ := by
  have hints : questionHints (withEntities s es) found = questionHints (withEntities s es') found :=
    questionHints_congr rfl rfl rfl rfl
  unfold conclude outcomeOf
  dsimp only
  rw [hints]
  rfl

/-- Entities that are the same kind by kind lead to the same outcome. -/
theorem process_congr (desk : Desk) (moment : Moment) (number : Nat) (confidence : Float) (s : Subject)
    (h : Entity.SameByKind es es') :
    process desk moment number confidence (withEntities s es) =
      process desk moment number confidence (withEntities s es') := by
  obtain ⟨t, found, xs, xs', examined, examined'⟩ := examine_congr desk s h
  rw [process_eq_conclude, process_eq_conclude, examined, examined']
  exact conclude_congr desk moment number confidence t found xs xs'

theorem clarify_congr (desk : Desk) (moment : Moment) (account : Option Account)
    (h : Entity.SameByKind es es') :
    clarify desk moment es account = clarify desk moment es' account := by
  unfold clarify
  dsimp only
  rw [detect_congr_sameByKind _ _ _ h, Question.ask_congr h, extract_congr desk moment _ _ _ h]

end Desk

structure Request.SameByKind (r r' : Request) : Prop where
  intent_eq : r.intent = r'.intent
  entities : Entity.SameByKind r.entities r'.entities
  account_eq : r.account = r'.account
  confidence_eq : r.confidence = r'.confidence

namespace Desk

variable {r r' : Request}

/-- What was requested is the same but for the entities. -/
theorem requested_congr (desk : Desk) (moment : Moment) (t : Template) (h : r.SameByKind r') :
    requested desk moment r t = withEntities (requested desk moment r' t)
      (normalize desk r.entities r.account) := by
  have extracted := extract_congr desk moment r.intent (some t) r.account
    (sameByKind_normalize desk r.account h.entities)
  unfold requested withEntities
  rw [extracted, h.intent_eq, h.account_eq]

theorem parse_congr (desk : Desk) (moment : Moment) (number : Nat) (h : r.SameByKind r') :
    parse desk moment number r = parse desk moment number r' := by
  have normalized : Entity.SameByKind (normalize desk r.entities r.account)
      (normalize desk r'.entities r'.account) := by
    rw [← h.account_eq]
    exact sameByKind_normalize desk r.account h.entities
  cases ht : Template.of? r.intent with
  | some t =>
    rw [parse_eq_process desk moment number ht, parse_eq_process desk moment number (h.intent_eq ▸ ht),
      requested_congr desk moment t h, h.confidence_eq]
    exact process_congr desk moment number r'.confidence (requested desk moment r' t) normalized
  | none =>
    by_cases unknown : r.intent = .unknown
    · unfold parse
      dsimp only
      rw [if_pos unknown, if_pos (h.intent_eq ▸ unknown), h.account_eq]
      rw [h.account_eq] at normalized
      exact clarify_congr desk moment r'.account normalized
    · rw [parse_unsupported desk moment number r unknown ht,
        parse_unsupported desk moment number r' (h.intent_eq ▸ unknown) (h.intent_eq ▸ ht), h.intent_eq]

/-- The answer to a request depends on the number of its command in nothing else. -/
theorem unnumbered_parse (desk : Desk) (moment : Moment) (number number' : Nat) (r : Request) :
    (parse desk moment number r).map (·.unnumbered) =
      (parse desk moment number' r).map (·.unnumbered) := by
  unfold parse
  dsimp only
  split
  · rfl
  · cases Template.of? r.intent with
    | none => rfl
    | some t =>
      dsimp only
      rw [process_eq_conclude, process_eq_conclude]
      exact unnumbered_conclude desk moment r.confidence number number' _

end Desk

/-! ## Texts -/

namespace Careful

/-- What a handler says. The handler of the whole request quotes the text that was typed. -/
def handled (text : String) : Failure.Code → Failure
  | .parsingError =>
    .of .commandProcessing .parsingError "Unexpected error during command parsing"
      [("input", .text text)]
  | .disambiguationError =>
    .of .commandProcessing .disambiguationError "Failed to generate disambiguation options"
  | .commandBuildError =>
    .of .commandBuilding .commandBuildError "Failed to build command"
  | code => .of .commandProcessing code code.standardMessage

/-- The answer to a request that was typed as a text. -/
def answer (desk : Desk) (moment : Desk.Moment) (number : Nat) (text : String) (r : Request) :
    Except Failure Outcome :=
  match parse desk moment number r with
  | .ok answer => answer
  | .error code => .error (handled text code)

/-- No handler is called upon, so that the text is not quoted. -/
theorem answer_eq_parse (desk : Desk) (moment : Desk.Moment) (number : Nat) (text : String) {r : Request}
    (recognised : ∀ e ∈ r.entities, e.IsRecognised) :
    answer desk moment number text r = Desk.parse desk moment number r := by
  unfold answer
  rw [parse_eq desk moment number recognised]

end Careful

theorem Entity.SameByKind.mem {es es' : List Entity} (h : SameByKind es es') {e : Entity}
    (he : e ∈ es') : e ∈ es := by
  have mem : e ∈ ofKind e.kind es' := List.mem_filter.2 ⟨he, beq_self_eq_true e.kind⟩
  rw [← h e.kind] at mem
  exact (List.mem_filter.1 mem).1

namespace Desk

/-- Requests whose entities are the same kind by kind have the same outcome, up to the number of its
command, whatever texts they were typed as. -/
theorem interleaving (desk : Desk) (moment : Moment) (number number' : Nat) {r r' : Request}
    (h : r.SameByKind r') :
    (parse desk moment number r).map (·.unnumbered) =
        (parse desk moment number' r').map (·.unnumbered) ∧
      ((∀ e ∈ r.entities, e.IsRecognised) → ∀ text text' : String,
        (Careful.answer desk moment number text r).map (·.unnumbered) =
          (Careful.answer desk moment number' text' r').map (·.unnumbered)) := by
  have same : (parse desk moment number r).map (·.unnumbered) =
      (parse desk moment number' r').map (·.unnumbered) := by
    rw [parse_congr desk moment number h]
    exact unnumbered_parse desk moment number number' r'
  refine ⟨same, fun recognised text text' => ?_⟩
  rw [Careful.answer_eq_parse desk moment number text recognised,
    Careful.answer_eq_parse desk moment number' text' fun e he => recognised e (h.entities.mem he)]
  exact same

end Desk

/-- Six hundred SEI for USDC, with a slippage, in the order in which they were typed. -/
def Request.swapSpoken : Request where
  intent := .swap
  entities := [{ kind := .amount, value := "600", normalized := "600" },
    { kind := .token, value := "sei", normalized := "sei" },
    { kind := .token, value := "usdc", normalized := "usdc" },
    { kind := .protocol, value := "Symphony", normalized := "symphony" },
    { kind := .slippage, value := "1%", normalized := "1" }]

/-- The same, with the venue first and the amount last. -/
def Request.swapReordered : Request where
  intent := .swap
  entities := [{ kind := .protocol, value := "Symphony", normalized := "symphony" },
    { kind := .token, value := "sei", normalized := "sei" },
    { kind := .slippage, value := "1%", normalized := "1" },
    { kind := .token, value := "usdc", normalized := "usdc" },
    { kind := .amount, value := "600", normalized := "600" }]

/-- Both orders lead to the same command. -/
theorem Desk.swapReordered_alike :
    Request.swapSpoken.SameByKind .swapReordered ∧
      (parse {} ⟨0, 0⟩ 1 .swapSpoken).map (·.unnumbered) =
        (parse {} ⟨0, 0⟩ 2 .swapReordered).map (·.unnumbered) ∧
      (Careful.answer {} ⟨0, 0⟩ 1 "swap 600 sei to usdc" .swapSpoken).map (·.unnumbered) =
        (Careful.answer {} ⟨0, 0⟩ 2 "on symphony, sei into usdc: 600" .swapReordered).map
          (·.unnumbered) ∧
      ∃ o, parse {} ⟨0, 0⟩ 2 .swapReordered = .ok o ∧ o.command.isSome = true := by
  have alike : Request.swapSpoken.SameByKind .swapReordered :=
    ⟨rfl, fun kind => by cases kind <;> rfl, rfl, rfl⟩
  have recognised : ∀ e ∈ Request.swapSpoken.entities, e.IsRecognised := by
    intro e he
    have certain : e.confidence = 1 := by
      simp only [Request.swapSpoken, List.mem_cons, List.not_mem_nil, or_false] at he
      rcases he with rfl | rfl | rfl | rfl | rfl <;> rfl
    unfold Entity.IsRecognised
    rw [certain]
    exact Careful.isConfidence_one
  obtain ⟨same, spoken⟩ := interleaving {} ⟨0, 0⟩ 1 2 alike
  refine ⟨alike, same, spoken recognised _ _, exists_eq_ok_of_any ?_⟩
  decide +kernel

end Teller
