import Teller.Proofs.Desk.Alike
import Teller.Proofs.Desk.Choosing
import Teller.Proofs.Desk.Ending

/-!
# Naming a protocol at once or when asked

A request that names no protocol is asked for one if several venues serve its intent. Whoever
chooses a venue then gets what a request with that venue would have got: the parameters are the
same, and once the venue is clear only a risk can be left to ask about, on which the entities of the
request and those that the parameters imply agree as long as the written leverage reads back. With
several amounts or numbers of one kind they need not agree, as only a request can state these.

    eq_risk_of_mem_ambiguities_naming, eq_risk_of_mem_ambiguities_venueChosen
                                    only a risk is left to be asked about
    alike_venueChosen               both ways are reviewed alike
    naming_when_asked               both ways have the same outcome
-/

namespace Teller.Desk

open Ambiguity Review

/-! ## Only a risk is left to be asked about -/

/-- A request with no protocol, and with at most one amount, one leverage and one slippage. -/
structure Unequivocal (r : Request) : Prop where
  unnamed : Entity.ofKind .protocol r.entities = []
  amounts : (Entity.ofKind .amount r.entities).length ≤ 1
  leverages : (Entity.ofKind .leverage r.entities).length ≤ 1
  slippages : (Entity.ofKind .slippage r.entities).length ≤ 1

section

variable {desk : Desk} {moment : Moment} {number : Nat} {r : Request} {t : Template} {o : Outcome}
  {e : Entity} {v : Venue} {a : Ambiguity}

/-- A protocol is asked for only if the direction is clear. -/
theorem not_lacksDirection_of_asksAbout (h : parse desk moment number r = .ok o)
    (asks : o.AsksAbout .missingProtocol) :
    lacksDirection r.intent (normalize desk r.entities r.account) = false := by
  rw [Outcome.AsksAbout, ambiguity_of_parse h, mostUrgent?_eq_some_iff] at asks
  rw [← Bool.not_eq_true]
  intro lacks
  have mem : .tokenDirection ∈ detected desk r := (mem_detect ..).2 lacks
  exact absurd (asks.2.2 _ mem) (by decide)

theorem ofKind_normalize_naming (names : e.Names v) {kind : Entity.Kind} (h : kind ≠ .protocol) :
    Entity.ofKind kind (normalize desk (r.naming e).entities r.account) =
      Entity.ofKind kind (normalize desk r.entities r.account) := by
  show Entity.ofKind kind (normalize desk (r.entities ++ [e]) r.account) = _
  rw [normalize_append_of_names desk r.account names]
  exact ofKind_append_of_protocol (e := { e with normalized := v.id }) names.protocol h

theorem namesProtocol_naming (names : e.Names v) :
    namesProtocol (normalize desk (r.naming e).entities r.account) = true := by
  have mem : e ∈ Entity.ofKind .protocol (r.naming e).entities :=
    List.mem_filter.2 ⟨List.mem_append_right _ List.mem_cons_self, beq_of_eq names.protocol⟩
  unfold namesProtocol
  rw [ofKind_normalize]
  cases found : Entity.ofKind .protocol (r.naming e).entities with
  | nil =>
    rw [found] at mem
    cases mem
  | cons first others => rfl

theorem length_ofKind_normalize (desk : Desk) (kind : Entity.Kind) (entities : List Entity)
    (account : Option Account) : (Entity.ofKind kind (normalize desk entities account)).length =
      (Entity.ofKind kind entities).length := by
  rw [ofKind_normalize, List.length_map]

/-- If the direction is clear, a request with a venue can be ambiguous by its risk alone. -/
theorem eq_risk_of_mem_ambiguities_naming (ht : Template.of? r.intent = some t)
    (unequivocal : Unequivocal r)
    (directed : lacksDirection r.intent (normalize desk r.entities r.account) = false)
    (names : e.Names v)
    (ha : a ∈ ambiguities (requested desk moment (r.naming e) t)) : a = .riskConfirmation := by
  have applies := applies_of_mem_ambiguities ha
  have same : ∀ {kind : Entity.Kind}, kind ≠ .protocol → (Entity.ofKind kind
      (normalize desk (r.naming e).entities r.account)).length =
        (Entity.ofKind kind r.entities).length := by
    intro kind h
    rw [ofKind_normalize_naming names h, length_ofKind_normalize]
  cases a with
  | riskConfirmation => rfl
  | missingToken => cases applies
  | unclearIntent => exact absurd (eq_of_beq applies) (ne_unknown_of_of? ht)
  | missingProtocol =>
    have lacks : lacksProtocol r.intent (normalize desk (r.naming e).entities r.account) = true :=
      applies
    rw [lacksProtocol, namesProtocol_naming names] at lacks
    cases lacks
  | protocolChoice =>
    have choice : Venue.hasChoice r.intent
        (namesProtocol (normalize desk (r.naming e).entities r.account)) _ = true := applies
    rw [Venue.hasChoice, namesProtocol_naming names] at choice
    cases choice
  | tokenDirection =>
    have lacks : lacksDirection r.intent (normalize desk (r.naming e).entities r.account) = true :=
      applies
    rw [lacksDirection, ofKind_normalize_naming names (by decide),
      ofKind_normalize_naming names (by decide)] at lacks
    rw [lacksDirection, lacks] at directed
    cases directed
  | multipleAmounts =>
    have several : 1 < (Entity.ofKind .amount
        (normalize desk (r.naming e).entities r.account)).length := of_decide_eq_true applies
    rw [same (by decide)] at several
    have := unequivocal.amounts
    omega
  | parameterConflict =>
    have conflict : hasConflict (normalize desk (r.naming e).entities r.account) = true := applies
    rw [not_hasConflict_of_length_le (by rw [same (by decide)]; exact unequivocal.leverages)
      (by rw [same (by decide)]; exact unequivocal.slippages)] at conflict
    cases conflict

theorem length_tokens_of_isSome (deadline : Int) {entities : List Entity}
    (h : (primaryOf deadline entities).token.isSome) : (Entity.ofKind .token entities).length = 1 := by
  unfold primaryOf at h
  cases tokens : Entity.ofKind .token entities with
  | nil =>
    rw [tokens] at h
    cases h
  | cons first others =>
    cases others with
    | nil => rfl
    | cons second rest =>
      rw [tokens] at h
      cases h

theorem length_amounts_of_isSome (deadline : Int) {entities : List Entity}
    (h : (primaryOf deadline entities).amount.isSome) :
    0 < (Entity.ofKind .amount entities).length := by
  have first : (firstText? .amount entities).isSome := h
  unfold firstText? at first
  cases amounts : Entity.ofKind .amount entities with
  | nil =>
    rw [amounts] at first
    cases first
  | cons first others => exact Nat.succ_pos _

theorem isSome_of_length_entityOf {kind : Entity.Kind} {text : Option String}
    (h : (entityOf kind text).length = 1) : text.isSome := by
  cases text with
  | none => cases h
  | some s => rfl

/-- A chosen venue leaves the direction as clear as it was. -/
theorem not_lacksDirection_venueChosen (ht : Template.of? r.intent = some t)
    (unequivocal : Unequivocal r)
    (directed : lacksDirection r.intent (normalize desk r.entities r.account) = false)
    (undirected : (venueChosen desk moment r t v).isDirected = false) :
    lacksDirection r.intent (venueChosen desk moment r t v).allEntities = false := by
  rw [← Bool.not_eq_true]
  intro lacks
  simp only [lacksDirection, Bool.and_eq_true, beq_iff_eq] at lacks
  obtain ⟨⟨swap, one_token⟩, one_amount⟩ := lacks
  -- a swap infers nothing, so the parameters state what the entities of the request state
  have nothing : inferences (requested desk moment r t) = [] :=
    inferences_eq_nil_of_swap (requested desk moment r t) ht swap
  have primary_eq : (venueChosen desk moment r t v).parameters.primary =
      (primaryOf (moment.seconds + desk.deadline) (normalize desk r.entities r.account)).revise
        (.naming v) := by
    show (examine desk (requested desk moment r t)).subject.parameters.primary.revise _ = _
    rw [primary_examine, nothing]
    rfl
  have implied : (venueChosen desk moment r t v).allEntities =
      entitiesOf (venueChosen desk moment r t v).parameters.primary := rfl
  simp only [Subject.isDirected, Bool.or_eq_false_iff, Option.isSome_eq_false_iff,
    Option.isNone_iff_eq_none] at undirected
  rw [implied, ofKind_token_implied, (entityOf_eq_nil_iff ..).2 undirected.1,
    (entityOf_eq_nil_iff ..).2 undirected.2, List.append_nil, List.append_nil, primary_eq] at one_token
  rw [implied, ofKind_implied _ .amount (by decide), primary_eq] at one_amount
  have token := length_tokens_of_isSome (moment.seconds + desk.deadline)
    (isSome_of_length_entityOf one_token)
  have amount := length_amounts_of_isSome (moment.seconds + desk.deadline)
    (isSome_of_length_entityOf one_amount)
  have at_most := unequivocal.amounts
  rw [← length_ofKind_normalize desk .amount r.entities r.account] at at_most
  have one : (Entity.ofKind .amount (normalize desk r.entities r.account)).length = 1 := by omega
  simp [lacksDirection, swap, token, one] at directed

/-- After a venue was chosen, a request whose direction is clear can be ambiguous by its risk alone.
-/
theorem eq_risk_of_mem_ambiguities_venueChosen (ht : Template.of? r.intent = some t)
    (unequivocal : Unequivocal r)
    (directed : lacksDirection r.intent (normalize desk r.entities r.account) = false)
    (ha : a ∈ ambiguities (venueChosen desk moment r t v)) : a = .riskConfirmation := by
  obtain ⟨applies, undirected⟩ := (mem_ambiguities _ a).1 ha
  have settled : a ≠ .riskConfirmation → a ≠ .tokenDirection →
      a.IsSettled (venueChosen desk moment r t v).intent (venueChosen desk moment r t v).parameters := by
    intro other undirected
    cases a with
    | riskConfirmation => exact absurd rfl other
    | tokenDirection => exact absurd rfl undirected
    | missingProtocol | protocolChoice => exact isSome_stated?_id v
    | multipleAmounts | parameterConflict | unclearIntent | missingToken => trivial
  by_cases risk : a = .riskConfirmation
  · exact risk
  · by_cases direction : a = .tokenDirection
    · subst direction
      have lacks : lacksDirection r.intent (venueChosen desk moment r t v).allEntities = true := applies
      have undirected : (venueChosen desk moment r t v).isDirected = false := by simpa using undirected
      rw [not_lacksDirection_venueChosen ht unequivocal directed undirected] at lacks
      cases lacks
    · exact absurd ha (not_mem_ambiguities_of_isSettled ht rfl (settled risk direction))

theorem amount_eq_of_venueChosen (ht : Template.of? r.intent = some t) (names : e.Names v)
    (unnamed : Entity.ofKind .protocol r.entities = []) :
    Ambiguity.firstNumber? .amount
      (examine desk (requested desk moment (r.naming e) t)).subject.allEntities =
      Ambiguity.firstNumber? .amount (venueChosen desk moment r t v).allEntities := by
  have primary_eq := primary_venueChosen desk moment ht names unnamed
  have ht' : Template.of? (r.naming e).intent = some t := ht
  calc Ambiguity.firstNumber? .amount
        (examine desk (requested desk moment (r.naming e) t)).subject.allEntities
      = (requested desk moment (r.naming e) t).parameters.primary.amount.bind Number.read? :=
        amount_allEntities_examine desk (posed_requested desk moment ht')
    _ = (venueChosen desk moment r t v).parameters.primary.amount.bind Number.read? := by
        rw [primary_eq, amount_examine]
    _ = Ambiguity.firstNumber? .amount (venueChosen desk moment r t v).allEntities :=
        (firstNumber?_amount_implied _).symm

/-- Leverages that read back are alike in entities and in parameters. -/
theorem leverage_alike_of_venueChosen (ht : Template.of? r.intent = some t)
    (names : e.Names v)
    (unnamed : Entity.ofKind .protocol r.entities = [])
    (readsBack : ∀ x, (requested desk moment r t).parameters.primary.leverage = some x →
      Number.ReadsBack x) (bound : Float) :
    (Ambiguity.firstNumber? .leverage
        (examine desk (requested desk moment (r.naming e) t)).subject.allEntities).any (bound < ·) =
      (Ambiguity.firstNumber? .leverage (venueChosen desk moment r t v).allEntities).any (bound < ·) := by
  have stated : Ambiguity.firstNumber? .leverage
      (examine desk (requested desk moment (r.naming e) t)).subject.allEntities =
        (requested desk moment r t).parameters.primary.leverage := by
    have ht' : Template.of? (r.naming e).intent = some t := ht
    rw [leverage_allEntities_requested desk moment ht', primary_requested_naming names unnamed]
    rfl
  have chosen : (venueChosen desk moment r t v).parameters.primary.leverage =
      (requested desk moment r t).parameters.primary.leverage := leverage_examine desk _
  have implied : Ambiguity.firstNumber? .leverage (venueChosen desk moment r t v).allEntities =
      (venueChosen desk moment r t v).parameters.primary.leverage.bind fun x =>
        Number.read? (Number.plain x) := firstNumber?_leverage_implied _
  rw [stated, implied, chosen, Number.any_above_of_readsBack readsBack bound]

/-- What is reviewed after a venue was chosen is what is reviewed when it is named at once. -/
theorem alike_venueChosen (ht : Template.of? r.intent = some t) (unequivocal : Unequivocal r)
    (directed : lacksDirection r.intent (normalize desk r.entities r.account) = false)
    (names : e.Names v)
    (readsBack : ∀ x, (requested desk moment r t).parameters.primary.leverage = some x →
      Number.ReadsBack x) :
    (examine desk (requested desk moment (r.naming e) t)).Alike
      (examine desk (venueChosen desk moment r t v)) := by
  have parameters_eq := parameters_venueChosen desk moment ht names unequivocal.unnamed
  have examined : (examine desk (venueChosen desk moment r t v)).subject =
      venueChosen desk moment r t v := examine_venueChosen ht
  apply alike_examine
  · rw [examined, intent_examine]
    rfl
  · rw [examined, parameters_eq]
  · rw [examined, template_examine]
    rfl
  · rw [examined, account_examine]
    rfl
  · rw [examined]
    refine openQuestion?_congr_of_risk ?_ ?_ (intent_examine ..) ?_ ?_ ?_
    · intro a ha
      rw [ambiguities_examine desk (requested desk moment (r.naming e) t) ht] at ha
      exact eq_risk_of_mem_ambiguities_naming ht unequivocal directed names ha
    · intro a ha
      exact eq_risk_of_mem_ambiguities_venueChosen ht unequivocal directed ha
    · rw [parameters_eq]
    · exact amount_eq_of_venueChosen ht names unequivocal.unnamed
    · exact leverage_alike_of_venueChosen ht names unequivocal.unnamed readsBack

/-! ## Naming a protocol at once or when asked -/

/-- An answer that asks for a protocol reports on what was requested. -/
theorem reports_of_asksAbout (h : parse desk moment number r = .ok o)
    (asks : o.AsksAbout .missingProtocol) : ∃ t, Template.of? r.intent = some t ∧
      o.Reports (examine desk (requested desk moment r t)) :=
  reports_of_parse h asks (by decide)

theorem id_venueChoice_injective {v v' : Venue} (h : "protocol_" ++ v.id = "protocol_" ++ v'.id) :
    v = v' :=
  Venue.id_injective ((String.append_right_inj _).1 h)

theorem id_venueChoice_ne_cancelId (v : Venue) : "protocol_" ++ v.id ≠ Question.cancelId := by
  cases v <;> decide

/-- Each choice of the question for a protocol names a venue. -/
theorem exists_venue_of_mem_choices {i : Inquiry} {q : Question} {c : Choice}
    (h : Question.about? i .missingProtocol = .ok q) (hc : c ∈ q.choices) :
    ∃ v : Venue, c.id = "protocol_" ++ v.id ∧ q.find? c.id = some c ∧ c.intent = none ∧
      c.revision = { primary := .naming v } := by
  rw [Question.about?, mapError_eq_ok_iff] at h
  have choices := (Question.of?_eq_ok h).1
  have offered := hc
  rw [choices] at offered
  obtain ⟨v, _, rfl⟩ := List.mem_map.1 offered
  refine ⟨v, rfl, Question.find?_eq_some_of_unique hc ?_, rfl, rfl⟩
  intro c' hc' same
  rw [choices] at hc'
  obtain ⟨v', _, rfl⟩ := List.mem_map.1 hc'
  rw [id_venueChoice_injective same]

/-- To choose a venue is to review what the request comes to with that venue. -/
theorem resolve_eq_venueChosen {q : Question} {c : Choice} (ht : Template.of? r.intent = some t)
    (reports : o.Reports (examine desk (requested desk moment r t)))
    (found : q.find? c.id = some c) (proceeds : c.id ≠ Question.cancelId) (keeps : c.intent = none)
    (revision_eq : c.revision = { primary := .naming v }) :
    resolve desk moment number
        { intent := o.intent, parameters := o.parameters, choice := c.id, question := q
          account := r.account, confidence := r.confidence } =
      process desk moment number r.confidence (venueChosen desk moment r t v) := by
  rw [resolve_eq_process ht reports found proceeds keeps, revision_eq, reports.parameters_eq]
  rfl

/-- To name a protocol when asked for it is to have named it at once: for each choice, the outcomes
are the same up to the number of the command and the notes about inferred parameters. -/
theorem naming_when_asked (desk : Desk) (moment : Moment) (number number₁ number₂ : Nat) (r : Request)
    (o : Outcome) (q : Question) (h : parse desk moment number r = .ok o)
    (unequivocal : Unequivocal r)
    (readsBack : ∀ x, o.parameters.primary.leverage = some x → Number.ReadsBack x)
    (asks : o.AsksAbout .missingProtocol) (asked : o.question = some q) :
    ∀ c ∈ q.choices, ∃ v : Venue, c.id = "protocol_" ++ v.id ∧
      ∀ e : Entity, e.Names v → ∃ o₁ o₂,
        resolve desk moment number₁
          { intent := o.intent, parameters := o.parameters, choice := c.id, question := q
            account := r.account, confidence := r.confidence } = .ok o₁ ∧
        parse desk moment number₂ (r.naming e) = .ok o₂ ∧ o₁.essence = o₂.essence := by
  intro c hc
  obtain ⟨t, ht, reports⟩ := reports_of_asksAbout h asks
  have directed := not_lacksDirection_of_asksAbout h asks
  rw [reports.parameters_eq, leverage_examine] at readsBack
  have open_question := asked
  rw [reports.question_eq, question_examine] at open_question
  obtain ⟨a, _, about⟩ := about_openQuestion? open_question
  have missing : a = .missingProtocol := by
    rw [Outcome.AsksAbout, asked, Option.bind_some, Question.ambiguity_of_about? about] at asks
    exact Option.some.inj asks
  subst missing
  obtain ⟨v, id_eq, found, keeps, revision_eq⟩ := exists_venue_of_mem_choices about hc
  refine ⟨v, id_eq, fun e names => ?_⟩
  have proceeds : c.id ≠ Question.cancelId := by
    rw [id_eq]
    exact id_venueChoice_ne_cancelId v
  have alike := alike_venueChosen ht unequivocal directed names readsBack
  have same := essence_conclude desk moment r.confidence alike number₂ number₁
  rw [← process_eq_conclude, ← process_eq_conclude] at same
  have chosen_template : Template.of? (venueChosen desk moment r t v).intent =
      some (venueChosen desk moment r t v).template := ht
  obtain ⟨o₁, h₁⟩ := exists_process_eq_ok desk moment number₁ r.confidence chosen_template
  have named_template : Template.of? (requested desk moment (r.naming e) t).intent =
      some (requested desk moment (r.naming e) t).template := ht
  obtain ⟨o₂, h₂⟩ := exists_process_eq_ok desk moment number₂ r.confidence named_template
  rw [h₁, h₂] at same
  refine ⟨o₁, o₂, ?_, ?_, (Except.ok.inj same).symm⟩
  · rw [resolve_eq_venueChosen ht reports found proceeds keeps revision_eq]
    exact h₁
  · have naming_template : Template.of? (r.naming e).intent = some t := ht
    rw [parse_eq_process desk moment number₂ naming_template]
    exact h₂

end

/-- To borrow sixty thousand with sevenfold leverage, by someone who holds USDC and lends at Silo.
-/
def borrowLevered : Request where
  intent := .borrow
  entities := [{ kind := .amount, value := "60000", normalized := "60000" },
    { kind := .leverage, value := "7x", normalized := "7x" }]
  account := some {
    balances := [("USDC", "100")]
    positions := [{ protocol := "silo", kind := "lending", value := 200000 }] }

def takara : Entity where
  kind := .protocol
  value := "Takara"
  normalized := "takara"

/-- The token is inferred and the protocol asked for; then the risk is, as if the protocol had been
named at once. -/
theorem borrowLevered_named_when_asked : Unequivocal borrowLevered ∧ ∃ o q,
    parse {} ⟨0, 0⟩ 1 borrowLevered = .ok o ∧ o.AsksAbout .missingProtocol ∧ o.question = some q ∧
    (∀ x, o.parameters.primary.leverage = some x → Number.ReadsBack x) ∧
    ∃ c ∈ q.choices, c.id = "protocol_takara" ∧ ∃ o₁ o₂,
      resolve {} ⟨0, 0⟩ 2
        { intent := o.intent, parameters := o.parameters, choice := c.id, question := q
          account := borrowLevered.account, confidence := borrowLevered.confidence } = .ok o₁ ∧
      parse {} ⟨0, 0⟩ 3 (borrowLevered.naming takara) = .ok o₂ ∧ o₁.essence = o₂.essence ∧
      o₂.AsksAbout .riskConfirmation := by
  have unequivocal : Unequivocal borrowLevered := ⟨rfl, by decide, by decide, by decide⟩
  have first : (parse {} ⟨0, 0⟩ 1 borrowLevered).toOption.any fun o =>
      (o.question.any fun q => q.ambiguity = some .missingProtocol &&
        q.choices.any (·.id == "protocol_takara")) &&
      o.parameters.primary.leverage.all fun x => (Number.read? (Number.plain x)).any (· == x) := by
    decide +kernel
  have second : (parse {} ⟨0, 0⟩ 3 (borrowLevered.naming takara)).toOption.any fun o =>
      o.question.bind (·.ambiguity) = some .riskConfirmation := by
    decide +kernel
  obtain ⟨o, ho, found⟩ := exists_eq_ok_of_any first
  obtain ⟨asks, reads⟩ := Bool.and_eq_true_iff.1 found
  obtain ⟨q, asked, asks⟩ := (Option.any_eq_true ..).1 asks
  obtain ⟨about, offers⟩ := Bool.and_eq_true_iff.1 asks
  obtain ⟨c, hc, id_eq⟩ := List.any_eq_true.1 offers
  have id_eq : c.id = "protocol_takara" := eq_of_beq id_eq
  have asks : o.AsksAbout .missingProtocol := by
    rw [Outcome.AsksAbout, asked]
    exact of_decide_eq_true about
  have readsBack : ∀ x, o.parameters.primary.leverage = some x → Number.ReadsBack x := by
    intro x hx
    rw [hx] at reads
    obtain ⟨y, hy, same⟩ := (Option.any_eq_true ..).1 reads
    exact ⟨y, hy, .inr same⟩
  obtain ⟨v, named, same⟩ := naming_when_asked {} ⟨0, 0⟩ 1 2 3 borrowLevered o q ho unequivocal
    readsBack asks asked c hc
  have is_takara : v = .takara := id_venueChoice_injective (named.symm.trans id_eq)
  subst is_takara
  obtain ⟨o₁, o₂, h₁, h₂, essence_eq⟩ := same takara ⟨rfl, by decide +kernel⟩
  rw [h₂] at second
  have confirms : o₂.question.bind (·.ambiguity) = some .riskConfirmation := of_decide_eq_true second
  exact ⟨unequivocal, o, q, ho, asks, asked, readsBack, c, hc, id_eq, o₁, o₂, h₁, h₂, essence_eq,
    confirms⟩

end Teller.Desk
