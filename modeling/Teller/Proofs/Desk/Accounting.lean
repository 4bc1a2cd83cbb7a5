import Mathlib.Logic.ExistsUnique
import Teller.Proofs.Desk.Alike
import Teller.Proofs.Desk.Choosing

/-!
# Required parameters are accounted for

What a template requires is stated by the entities of a request, or the account supplies it, or it
is missing. The answer tells which: what was stated is kept without a word, what the account
supplied is entered with a note, and what is missing is an error. After that there is nothing left
to infer.

    get?_primaryOf                  what is extracted is what the entities state
    notesInferred_iff               notes are about what only the account states
    reportsMissing_iff              errors are about what neither of both states
    accounted_for                   every required parameter is accounted for in exactly one way
-/

namespace Teller

/-! ## What entities state -/

/-- The text that entities state for a required parameter: that of the first amount, that of the
only token, or those of the first two tokens if there are several. -/
def Entity.textFor? (field : String) (entities : List Entity) : Option String :=
  let amounts := (Entity.ofKind .amount entities).map (·.normalized)
  let tokens := (Entity.ofKind .token entities).map (·.normalized)
  match field with
  | "amount" => amounts[0]?
  | "token" => if tokens.length = 1 then tokens[0]? else none
  | "from_token" => if 1 < tokens.length then tokens[0]? else none
  | "to_token" => tokens[1]?
  | _ => none

theorem Template.field_of_required {t : Template} (h : t ∈ all) {field : String}
    (required : field ∈ t.required) : field ∈ ["amount", "token", "from_token", "to_token"] := by
  have all_known : ∀ t ∈ all, ∀ field ∈ t.required,
      field ∈ ["amount", "token", "from_token", "to_token"] := by
    decide
  exact all_known t h field required

namespace Desk

open Review

/-- What is extracted is what the entities state. -/
theorem get?_primaryOf (deadline : Int) (entities : List Entity) {field : String}
    (known : field ∈ ["amount", "token", "from_token", "to_token"]) :
    (primaryOf deadline entities).get? field = (Entity.textFor? field entities).map .text := by
  simp only [List.mem_cons, List.not_mem_nil, or_false] at known
  rcases known with rfl | rfl | rfl | rfl
  · show (firstText? .amount entities).map FieldValue.text = _
    unfold firstText? Entity.textFor?
    cases Entity.ofKind .amount entities <;> rfl
  all_goals
    unfold primaryOf Entity.textFor?
    cases Entity.ofKind .token entities with
    | nil => rfl
    | cons e others => cases others <;> rfl

end Desk

/-! ## What a review says about required parameters -/

namespace Review

variable {s : Subject} {field : String}

theorem mem_unstated_iff (value : Option String) : (field, value) ∈ unstated s ↔
    field ∈ s.template.required ∧ isStated s.parameters.primary field = false ∧
      infer? s.account field = value := by
  unfold unstated
  rw [List.mem_map]
  constructor
  · rintro ⟨field', mem, same⟩
    obtain ⟨required, not_stated⟩ := List.mem_filter.1 mem
    cases same
    exact ⟨required, by simpa using not_stated, rfl⟩
  · rintro ⟨required, not_stated, rfl⟩
    exact ⟨field, List.mem_filter.2 ⟨required, by rw [not_stated]; rfl⟩, rfl⟩

/-- Notes are about required parameters that are not stated and that the account supplies. -/
theorem exists_note_iff : (∃ f ∈ inferenceNotes s, f.field = field) ↔
    field ∈ s.template.required ∧ isStated s.parameters.primary field = false ∧
      (infer? s.account field).isSome := by
  constructor
  · rintro ⟨f, hf, about⟩
    obtain ⟨⟨field', value⟩, mem, noted⟩ := List.mem_filterMap.1 hf
    obtain ⟨v, rfl, rfl⟩ := Option.map_eq_some_iff.1 noted
    cases about
    obtain ⟨required, not_stated, supplied⟩ := (mem_unstated_iff _).1 mem
    exact ⟨required, not_stated, Option.isSome_iff_exists.2 ⟨v, supplied⟩⟩
  · rintro ⟨required, not_stated, supplied⟩
    obtain ⟨value, hv⟩ := Option.isSome_iff_exists.1 supplied
    have mem := (mem_unstated_iff (some value)).2 ⟨required, not_stated, hv⟩
    exact ⟨inferenceNote field value, List.mem_filterMap.2 ⟨_, mem, rfl⟩, rfl⟩

/-- Errors are about required parameters that are not stated and that the account does not supply.
-/
theorem exists_error_iff : (∃ f ∈ requiredErrors s, f.field = field) ↔
    field ∈ s.template.required ∧ isStated s.parameters.primary field = false ∧
      infer? s.account field = none := by
  constructor
  · rintro ⟨f, hf, about⟩
    obtain ⟨⟨field', value⟩, mem, reported⟩ := List.mem_filterMap.1 hf
    simp only [Option.isNone_iff_eq_none, Option.ite_none_right_eq_some, Option.some.injEq]
      at reported
    obtain ⟨rfl, rfl⟩ := reported
    cases about
    exact (mem_unstated_iff _).1 mem
  · rintro ⟨required, not_stated, not_supplied⟩
    have mem := (mem_unstated_iff none).2 ⟨required, not_stated, not_supplied⟩
    exact ⟨missing s.template.intent field, List.mem_filterMap.2 ⟨_, mem, rfl⟩, rfl⟩

theorem code_of_mem_inferenceNotes {f : Finding} (h : f ∈ inferenceNotes s) :
    f.code = .parameterInferred := by
  obtain ⟨⟨field, value⟩, _, noted⟩ := List.mem_filterMap.1 h
  obtain ⟨v, _, rfl⟩ := Option.map_eq_some_iff.1 noted
  rfl

theorem code_of_mem_requiredErrors {f : Finding} (h : f ∈ requiredErrors s) :
    f.code = .requiredParameterMissing := by
  obtain ⟨⟨field, value⟩, _, reported⟩ := List.mem_filterMap.1 h
  simp only [Option.ite_none_right_eq_some, Option.some.injEq] at reported
  rw [← reported.2]
  rfl

end Review

def Outcome.NotesInferred (o : Outcome) (field : String) : Prop :=
  ∃ f ∈ o.warnings, f.field = field ∧ f.code = .parameterInferred ∧ f.severity = .info

def Outcome.ReportsMissing (o : Outcome) (field : String) : Prop :=
  ∃ f ∈ o.errors, f.field = field ∧ f.code = .requiredParameterMissing

namespace Desk

open Review

variable {desk : Desk} {s : Subject} {o : Outcome} {field : String}

/-! ## What an examination enters -/

/-- What the account supplies is entered, and all else stays. -/
theorem get?_examine (desk : Desk) (ht : Template.of? s.intent = some s.template)
    (required : field ∈ s.template.required) :
    (examine desk s).subject.parameters.primary.get? field =
      (((inferences s).get? field).map .text).or (s.parameters.primary.get? field) := by
  have known := Template.field_of_required (Template.of?_eq_some ht).1 required
  by_cases token : field = "token"
  · subst token
    show (examine desk s).subject.parameters.primary.token.map FieldValue.text = _
    rw [token_examine]
    cases (inferences s).get? "token" <;> rfl
  · rw [get?_inferences_of_ne ht token, primary_examine]
    simp only [List.mem_cons, List.not_mem_nil, or_false] at known
    rcases known with rfl | rfl | rfl | rfl
    · rfl
    · exact absurd rfl token
    · rfl
    · rfl

theorem get?_examine_of_isStated (desk : Desk) (ht : Template.of? s.intent = some s.template)
    (required : field ∈ s.template.required)
    (stated : isStated s.parameters.primary field = true) :
    (examine desk s).subject.parameters.primary.get? field = s.parameters.primary.get? field := by
  rw [get?_examine desk ht required, get?_inferences_of_isStated stated]
  rfl

theorem get?_examine_of_infer? (desk : Desk) (ht : Template.of? s.intent = some s.template)
    (required : field ∈ s.template.required)
    (not_stated : isStated s.parameters.primary field = false) {value : String}
    (supplied : infer? s.account field = some value) :
    (examine desk s).subject.parameters.primary.get? field = some (.text value) := by
  rw [get?_examine desk ht required, get?_inferences_of_infer? required not_stated supplied]
  rfl

theorem ne_empty_of_infer? (ht : Template.of? s.intent = some s.template)
    (required : field ∈ s.template.required) {value : String}
    (supplied : infer? s.account field = some value) : value ≠ "" := by
  rcases infer?_eq_some supplied with rfl | rfl
  · exact absurd rfl (ne_protocol_of_required ht required)
  · obtain ⟨a, _, found⟩ := Option.bind_eq_some_iff.1 supplied
    exact Account.greatestBalance?_ne_empty found

theorem isStated_of_get? {p : Primary} {text : String} (h : p.get? field = some (.text text)) :
    isStated p field = decide (text ≠ "") := by
  unfold isStated
  rw [h]
  by_cases empty : text = ""
  · rw [empty]
    rfl
  · simp [empty]

/-- After an examination a required parameter is stated if it was before or the account supplies it.
-/
theorem isStated_examine_eq (desk : Desk) (ht : Template.of? s.intent = some s.template)
    (required : field ∈ s.template.required) :
    isStated (examine desk s).subject.parameters.primary field =
      (isStated s.parameters.primary field || (infer? s.account field).isSome) := by
  cases stated : isStated s.parameters.primary field with
  | true =>
    unfold isStated at stated ⊢
    rw [get?_examine_of_isStated desk ht required (by unfold isStated; exact stated)]
    exact stated
  | false =>
    cases supplied : infer? s.account field with
    | some value =>
      rw [isStated_of_get? (get?_examine_of_infer? desk ht required stated supplied)]
      exact decide_eq_true (ne_empty_of_infer? ht required supplied)
    | none =>
      have nothing : (inferences s).get? field = none := by
        cases found : (inferences s).get? field with
        | none => rfl
        | some value =>
          have same := (mem_inferences (Table.mem_of_get?_eq_some found)).2.2
          rw [supplied] at same
          cases same
      unfold isStated at stated ⊢
      rw [get?_examine desk ht required, nothing]
      exact stated

/-! ## What an answer says about required parameters -/

/-- The notes of both reviews are all that informs. -/
theorem note_of_mem_warnings {f : Finding} (h : f ∈ (examine desk s).review.warnings)
    (informs : f.severity = .info) :
    f ∈ inferenceNotes s ∨ f ∈ inferenceNotes (examine desk s).subject := by
  have of_review (s' : Subject) (hf : f ∈ (review desk.reviews desk.catalog s').warnings) :
      f ∈ inferenceNotes s' := by
    rcases List.mem_append.1 hf with note | warning
    · exact note
    · rw [((sorted_business _ _).warnings _ warning).1] at informs
      cases informs
  rcases examine_cases desk s with ⟨_, examined⟩ | ⟨_, _, examined⟩
  · rw [examined] at h
    exact .inl (of_review s h)
  · rw [examined] at h
    rcases List.mem_append.1 h with first | second
    · exact .inl (of_review s (List.mem_filter.1 first).1)
    · exact .inr (of_review _ second)

theorem mem_warnings_of_note {f : Finding} (h : f ∈ inferenceNotes s) :
    f ∈ (examine desk s).review.warnings := by
  have informs : (f.severity == .info) = true := beq_of_eq (severity_of_mem_inferenceNotes h)
  have mem : f ∈ inferenceNotes s ++ (business desk.reviews s).warnings :=
    List.mem_append_left _ h
  rcases examine_cases desk s with ⟨_, examined⟩ | ⟨_, _, examined⟩
  · rw [examined]
    exact mem
  · rw [examined]
    exact List.mem_append_left _ (List.mem_filter.2 ⟨mem, informs⟩)

/-- Notes are about what only the account states. -/
theorem notesInferred_iff (reports : o.Reports (examine desk s))
    (ht : Template.of? s.intent = some s.template) (required : field ∈ s.template.required) :
    o.NotesInferred field ↔ isStated s.parameters.primary field = false ∧
      (infer? s.account field).isSome := by
  unfold Outcome.NotesInferred
  rw [reports.warnings_eq]
  constructor
  · rintro ⟨f, hf, about, _, informs⟩
    rcases note_of_mem_warnings hf informs with first | second
    · exact (exists_note_iff.1 ⟨f, first, about⟩).2
    · -- the second review notes nothing, as the first one has entered all that the account supplies
      obtain ⟨_, not_stated, supplied⟩ := exists_note_iff.1 ⟨f, second, about⟩
      rw [account_examine] at supplied
      rw [isStated_examine_eq desk ht required, supplied, Bool.or_true] at not_stated
      cases not_stated
  · rintro ⟨not_stated, supplied⟩
    obtain ⟨f, hf, about⟩ := exists_note_iff.2 ⟨required, not_stated, supplied⟩
    exact ⟨f, mem_warnings_of_note hf, about, code_of_mem_inferenceNotes hf,
      severity_of_mem_inferenceNotes hf⟩

/-- Errors are about what neither the entities nor the account state. -/
theorem reportsMissing_iff (reports : o.Reports (examine desk s))
    (ht : Template.of? s.intent = some s.template) (required : field ∈ s.template.required) :
    o.ReportsMissing field ↔ isStated s.parameters.primary field = false ∧
      infer? s.account field = none := by
  have stage : (∃ f ∈ requiredErrors (examine desk s).subject, f.field = field) ↔
      isStated s.parameters.primary field = false ∧ infer? s.account field = none := by
    rw [exists_error_iff, template_examine, account_examine, isStated_examine_eq desk ht required]
    constructor
    · rintro ⟨_, not_stated, not_supplied⟩
      exact ⟨(Bool.or_eq_false_iff.1 not_stated).1, not_supplied⟩
    · rintro ⟨not_stated, not_supplied⟩
      rw [not_stated, not_supplied]
      exact ⟨required, rfl, rfl⟩
  rw [← stage, Outcome.ReportsMissing, reports.errors_eq, errors_examine]
  constructor
  · rintro ⟨f, hf, about, code⟩
    rcases List.mem_append.1 hf with hf | business
    · rcases List.mem_append.1 hf with error | rules
      · exact ⟨f, error, about⟩
      · exact absurd code (Rule.of_mem_checkAll rules).2
    · have sorted := ((sorted_business _ _).errors f business).2
      exact absurd code (Finding.Code.ne_of_stage_eq_business sorted).1
  · rintro ⟨f, hf, about⟩
    have mem := List.mem_append_left (business desk.reviews (examine desk s).subject).errors
      (List.mem_append_left (Rule.checkAll desk.catalog (examine desk s).subject.parameters
        (examine desk s).subject.template.rules) hf)
    exact ⟨f, mem, about, code_of_mem_requiredErrors hf⟩

end Desk

/-! ## One way for each required parameter -/

/-- A way to account for a required parameter. -/
inductive Accounting where
  | kept | inferred | missing
  deriving DecidableEq, Repr

/-- What an outcome holds if a required parameter is accounted for in one of these ways: its text is
that of the entities; or it is noted as inferred, and its text is what the account supplies; or it
is reported as missing, and it has none. -/
def Outcome.Accounts (o : Outcome) (entities : List Entity) (account : Option Account)
    (field : String) : Accounting → Prop
  | .kept => ∃ text, text ≠ "" ∧ Entity.textFor? field entities = some text ∧
      o.parameters.primary.get? field = some (.text text)
  | .inferred => o.NotesInferred field ∧ ∃ value, value ≠ "" ∧
      Review.infer? account field = some value ∧
      o.parameters.primary.get? field = some (.text value)
  | .missing => o.ReportsMissing field ∧ Review.isStated o.parameters.primary field = false

namespace Desk

open Review

section

variable {desk : Desk} {moment : Moment} {number : Nat} {r : Request} {t : Template} {o : Outcome}
  {field : String}

theorem get?_requested (desk : Desk) (moment : Moment) (ht : Template.of? r.intent = some t)
    (required : field ∈ t.required) :
    (requested desk moment r t).parameters.primary.get? field =
      (Entity.textFor? field (normalize desk r.entities r.account)).map .text :=
  get?_primaryOf _ _ (Template.field_of_required (Template.of?_eq_some ht).1 required)

/-- A required parameter is stated if the entities have a text for it that is not empty. -/
theorem isStated_requested_iff (desk : Desk) (moment : Moment)
    (ht : Template.of? r.intent = some t) (required : field ∈ t.required) :
    isStated (requested desk moment r t).parameters.primary field = true ↔
      ∃ text, text ≠ "" ∧
        Entity.textFor? field (normalize desk r.entities r.account) = some text := by
  rw [isStated_eq _ (get?_requested desk moment ht required)]
  cases Entity.textFor? field (normalize desk r.entities r.account) with
  | none => simp [stated?]
  | some text => by_cases empty : text = "" <;> simp [stated?, empty]

/-- A required parameter is accounted for in exactly one way. -/
theorem existsUnique_accounting (ht : Template.of? r.intent = some t)
    (reports : o.Reports (examine desk (requested desk moment r t))) (required : field ∈ t.required) :
    ∃! way, o.Accounts (normalize desk r.entities r.account) r.account field way := by
  have states := isStated_requested_iff desk moment ht required
  have notes := notesInferred_iff reports ht required
  have misses := reportsMissing_iff reports ht required
  have primary_eq : o.parameters.primary =
      (examine desk (requested desk moment r t)).subject.parameters.primary := by
    rw [reports.parameters_eq]
  cases stated : isStated (requested desk moment r t).parameters.primary field with
  | true =>
    obtain ⟨text, not_empty, supplied⟩ := states.1 stated
    refine ⟨.kept, ⟨text, not_empty, supplied, ?_⟩, fun way holds => ?_⟩
    · rw [primary_eq, get?_examine_of_isStated desk ht required stated,
        get?_requested desk moment ht required, supplied]
      rfl
    · cases way with
      | kept => rfl
      | inferred => rw [(notes.1 holds.1).1] at stated; cases stated
      | missing => rw [(misses.1 holds.1).1] at stated; cases stated
  | false =>
    have not_kept : ¬o.Accounts (normalize desk r.entities r.account) r.account field .kept := by
      rintro ⟨text, not_empty, supplied, _⟩
      rw [states.2 ⟨text, not_empty, supplied⟩] at stated
      cases stated
    cases supplied : infer? r.account field with
    | some value =>
      have noted : o.NotesInferred field := notes.2 ⟨stated, by
        show (infer? r.account field).isSome = true
        rw [supplied]
        rfl⟩
      refine ⟨.inferred, ⟨noted, value, ne_empty_of_infer? (s := requested desk moment r t) ht
        required supplied, supplied, ?_⟩, fun way holds => ?_⟩
      · rw [primary_eq, get?_examine_of_infer? desk ht required stated supplied]
      · cases way with
        | kept => exact absurd holds not_kept
        | inferred => rfl
        | missing => exact absurd (supplied.symm.trans (misses.1 holds.1).2) nofun
    | none =>
      have empty : isStated o.parameters.primary field = false := by
        rw [primary_eq, isStated_examine_eq desk ht required, stated]
        show (infer? r.account field).isSome = false
        rw [supplied]
        rfl
      refine ⟨.missing, ⟨misses.2 ⟨stated, supplied⟩, empty⟩, fun way holds => ?_⟩
      cases way with
      | kept => exact absurd holds not_kept
      | inferred =>
        obtain ⟨value, _, found, _⟩ := holds.2
        exact absurd (supplied.symm.trans found) nofun
      | missing => rfl

theorem exists_get?_eq_text (p : Primary)
    (known : field ∈ ["amount", "token", "from_token", "to_token"]) :
    ∃ text : Option String, p.get? field = text.map .text := by
  simp only [List.mem_cons, List.not_mem_nil, or_false] at known
  rcases known with rfl | rfl | rfl | rfl <;> exact ⟨_, rfl⟩

theorem isPresent_of_isStated {p : Primary} (stated : isStated p field = true)
    (known : field ∈ ["amount", "token", "from_token", "to_token"]) : isPresent p field = true := by
  obtain ⟨text, h⟩ := exists_get?_eq_text p known
  rw [isStated_eq text h] at stated
  unfold isPresent
  rw [h]
  cases text with
  | none => cases stated
  | some text =>
    by_cases empty : text = ""
    · subst empty
      cases stated
    · exact decide_eq_true empty

/-- The command of an outcome has all that its template requires. -/
theorem isComplete_of_reports {s : Subject} {c : Command}
    (ht : Template.of? s.intent = some s.template) (reports : o.Reports (examine desk s))
    (hc : o.command = some c) : isComplete c.intent c.parameters.primary = true := by
  unfold isComplete
  rw [reports.intent_of_command hc, ht]
  refine List.all_eq_true.2 fun field required => ?_
  exact isPresent_of_isStated (reports.isStated ht hc required)
    (Template.field_of_required (Template.of?_eq_some ht).1 required)

/-- Every required parameter is accounted for: either the entities have a text for it, which is
kept; or the account supplies it, which is noted; or it is reported as missing. A review of the
resulting parameters has nothing to infer, and a command has all that is required. -/
theorem accounted_for (h : parse desk moment number r = .ok o) (clear : r.intent ≠ .unknown) :
    ∃ t, Template.of? r.intent = some t ∧ o.intent = r.intent ∧
      (∀ field ∈ t.required, ∃! way,
        o.Accounts (normalize desk r.entities r.account) r.account field way) ∧
      (∀ entities : Option (List Entity),
        (review desk.reviews desk.catalog
          { intent := o.intent, parameters := o.parameters, template := t, account := r.account
            entities }).inferred = []) ∧
      ∀ c, o.command = some c → isComplete c.intent c.parameters.primary = true := by
  rcases parse_eq_ok h with ⟨unknown, _⟩ | ⟨t, ht, reports⟩
  · exact absurd unknown clear
  · have intent_eq : o.intent = r.intent := by
      rw [reports.intent_eq, intent_examine]
      rfl
    refine ⟨t, ht, intent_eq, fun field required => existsUnique_accounting ht reports required,
      fun entities => ?_, fun c hc => isComplete_of_reports ht reports hc⟩
    have token_eq : o.parameters.primary.token =
        (examine desk (requested desk moment r t)).subject.parameters.primary.token := by
      rw [reports.parameters_eq]
    exact inferences_eq_nil_of_examined (s := requested desk moment r t) ht rfl intent_eq rfl token_eq

end

end Desk

/-- A request to lend a hundred of whatever the account holds. -/
def Request.lendHoldings : Request where
  intent := .lend
  entities := [{ kind := .amount, value := "100", normalized := "100" },
    { kind := .protocol, value := "Silo", normalized := "silo" }]
  account := some { balances := [("SEI", "20"), ("USDC", "500")] }

/-- The amount is kept, the token is inferred, and nothing is missing from the command. -/
theorem Desk.lendHoldings_accounted_for :
    ∃ o c, parse {} ⟨0, 0⟩ 1 .lendHoldings = .ok o ∧ o.command = some c ∧
      c.parameters.primary.token = some "USDC" ∧ isComplete c.intent c.parameters.primary = true ∧
      ∀ field ∈ ["amount", "token"], ∃! way, o.Accounts
        (normalize {} Request.lendHoldings.entities Request.lendHoldings.account)
        Request.lendHoldings.account field way := by
  have handed_out : (parse {} ⟨0, 0⟩ 1 .lendHoldings).toOption.any fun o =>
      o.command.any fun c => c.parameters.primary.token = some "USDC" := by
    decide +kernel
  obtain ⟨o, c, ho, hc, token⟩ := exists_command_of_any handed_out
  obtain ⟨t, ht, _, accounted, _, complete⟩ := accounted_for ho nofun
  have lending : t.required = ["amount", "token"] := by
    cases ht
    rfl
  exact ⟨o, c, ho, hc, of_decide_eq_true token, complete c hc, lending ▸ accounted⟩

end Teller
