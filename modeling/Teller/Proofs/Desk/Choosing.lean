import Teller.Proofs.Desk.Answers
import Teller.Proofs.Desk.Required

/-!
# A venue named or chosen

A request may name a venue by one more entity, or a venue may be chosen when the desk asks for one.
The entity leaves the normalization of all others alone and adds the venue to what they state. No
template requires a protocol, so what the account supplies is the same either way, and it is entered
before a venue is chosen or beside a venue that is named. Estimates are made anew from what is
stated. So both ways lead to the same parameters.

    normalize_append_of_names       a venue leaves the other entities alone
    primary_requested_naming        it is all that is added to what they state
    inferences_requested_naming     and the same is inferred
    parameters_venueChosen          both ways lead to the same parameters
-/

namespace Teller

/-! ## A protocol beside the other entities -/

/-- An entity that names a venue. -/
structure Entity.Names (e : Entity) (v : Venue) : Prop where
  protocol : e.kind = .protocol
  resolves : Venue.resolve? e.text = some v

/-- A request with one more entity. -/
def Request.naming (r : Request) (e : Entity) : Request := { r with entities := r.entities ++ [e] }

def Primary.Revision.naming (v : Venue) : Primary.Revision := { protocol := some (some v.id) }

namespace Desk

open Ambiguity Review

section

variable {e : Entity} {entities : List Entity}

theorem ofKind_append_of_protocol (protocol : e.kind = .protocol) {kind : Entity.Kind}
    (h : kind ≠ .protocol) : Entity.ofKind kind (entities ++ [e]) = Entity.ofKind kind entities := by
  have other : Entity.ofKind kind [e] = [] := by
    unfold Entity.ofKind
    rw [List.filter_eq_nil_iff]
    intro e' he same
    rw [List.mem_singleton.1 he, protocol] at same
    exact h (eq_of_beq same).symm
  rw [ofKind_append, other, List.append_nil]

theorem ofKind_normalize (desk : Desk) (kind : Entity.Kind) (entities : List Entity)
    (account : Option Account) : Entity.ofKind kind (normalize desk entities account) =
      (Entity.ofKind kind entities).map (normalizeEntity desk
        (account.map fun a => basesFor a (firstToken? desk entities))) := by
  unfold normalize Entity.ofKind
  rw [List.filter_map]
  rfl

/-- A venue leaves the normalization of the other entities alone. -/
theorem normalize_append_of_names (desk : Desk) (account : Option Account) {v : Venue}
    (names : e.Names v) :
    normalize desk (entities ++ [e]) account =
      normalize desk entities account ++ [{ e with normalized := v.id }] := by
  have same_token : firstToken? desk (entities ++ [e]) = firstToken? desk entities := by
    unfold firstToken?
    rw [ofKind_append_of_protocol names.protocol (by decide)]
  have text : ∀ bases, normalizedText desk bases e = v.id := by
    intro bases
    unfold normalizedText protocolText
    rw [names.protocol, names.resolves]
  unfold normalize
  dsimp only
  rw [same_token, List.map_append, List.map_singleton, normalizeEntity, text]

theorem firstText?_append_of_protocol (protocol : e.kind = .protocol) (kind : Entity.Kind)
    (h : kind ≠ .protocol) : firstText? kind (entities ++ [e]) = firstText? kind entities := by
  unfold firstText?
  rw [ofKind_append_of_protocol protocol h]

/-- A protocol is all that it adds to what entities state. -/
theorem primaryOf_append_of_protocol (deadline : Int) (protocol : e.kind = .protocol)
    (unnamed : Entity.ofKind .protocol entities = []) :
    primaryOf deadline (entities ++ [e]) =
      (primaryOf deadline entities).revise { protocol := some (some e.normalized) } := by
  have first : firstText? .protocol (entities ++ [e]) = some e.normalized := by
    unfold firstText?
    rw [ofKind_append, unnamed]
    simp [Entity.ofKind, protocol]
  unfold primaryOf
  rw [first, ofKind_append_of_protocol protocol (by decide),
    firstText?_append_of_protocol protocol .amount (by decide),
    firstText?_append_of_protocol protocol .leverage (by decide),
    firstText?_append_of_protocol protocol .slippage (by decide)]
  rfl

end

/-- Estimates are made from the other two sections. -/
theorem estimated_congr (desk : Desk) (intent : Intent) (template : Option Template)
    (account : Option Account) {p p' : Parameters} (primary_eq : p.primary = p'.primary)
    (tuning_eq : p.tuning = p'.tuning) :
    estimated desk intent template account p = estimated desk intent template account p' := by
  unfold estimated
  rw [primary_eq, tuning_eq]

section

variable {desk : Desk} {moment : Moment} {r : Request} {t : Template} {e : Entity} {v : Venue}

theorem fresh_requested (desk : Desk) (moment : Moment) (r : Request) (t : Template) :
    estimated desk (requested desk moment r t).intent (requested desk moment r t).template
      (requested desk moment r t).account (requested desk moment r t).parameters =
      (requested desk moment r t).parameters := rfl

theorem unnamed_normalize (unnamed : Entity.ofKind .protocol r.entities = []) :
    Entity.ofKind .protocol (normalize desk r.entities r.account) = [] := by
  rw [ofKind_normalize, unnamed, List.map_nil]

/-- Whoever names a venue states it beside all else. -/
theorem primary_requested_naming (names : e.Names v)
    (unnamed : Entity.ofKind .protocol r.entities = []) :
    (requested desk moment (r.naming e) t).parameters.primary =
      (requested desk moment r t).parameters.primary.revise (.naming v) := by
  show primaryOf _ (normalize desk (r.entities ++ [e]) r.account) = _
  rw [normalize_append_of_names desk r.account names,
    primaryOf_append_of_protocol (e := { e with normalized := v.id }) _ names.protocol
      (unnamed_normalize unnamed)]
  rfl

theorem tuning_requested_naming (names : e.Names v)
    (unnamed : Entity.ofKind .protocol r.entities = []) :
    (requested desk moment (r.naming e) t).parameters.tuning =
      (requested desk moment r t).parameters.tuning := by
  show tuningOf desk (requested desk moment (r.naming e) t).parameters.primary r.account = _
  rw [primary_requested_naming names unnamed]
  rfl

end

/-! ## What is inferred -/

/-- What the account supplies depends on what is required and not stated. -/
theorem inferences_congr {s s' : Subject} (template_eq : s.template = s'.template)
    (account_eq : s.account = s'.account)
    (stated_eq : ∀ field ∈ s.template.required,
      isStated s.parameters.primary field = isStated s'.parameters.primary field) :
    inferences s = inferences s' := by
  have same : unstated s = unstated s' := by
    unfold unstated
    rw [← template_eq, ← account_eq]
    congr 1
    exact List.filter_congr fun field required => by rw [stated_eq field required]
  unfold inferences
  rw [same]

theorem isStated_naming (p : Primary) (v : Venue) {field : String} (h : field ≠ "protocol") :
    isStated (p.revise (.naming v)) field = isStated p field := by
  have same : (p.revise (.naming v)).get? field = p.get? field := by
    unfold Primary.get?
    split
    · rfl
    · rfl
    · rfl
    · rfl
    · exact absurd rfl h
    · rfl
    · rfl
    · rfl
    · rfl
  unfold isStated
  rw [same]

theorem ne_protocol_of_required {intent : Intent} {t : Template} (ht : Template.of? intent = some t)
    {field : String} (required : field ∈ t.required) : field ≠ "protocol" := by
  rintro rfl
  exact Template.protocol_not_required (Template.of?_eq_some ht).1 required

section

variable {desk : Desk} {moment : Moment} {r : Request} {t : Template} {e : Entity} {v : Venue}

theorem inferences_requested_naming (ht : Template.of? r.intent = some t)
    (names : e.Names v)
    (unnamed : Entity.ofKind .protocol r.entities = []) :
    inferences (requested desk moment (r.naming e) t) = inferences (requested desk moment r t) := by
  refine inferences_congr rfl rfl fun field required => ?_
  rw [primary_requested_naming names unnamed,
    isStated_naming _ v (ne_protocol_of_required ht required)]

/-- Once the account has supplied what it can, there is nothing left to infer. -/
theorem inferences_eq_nil_of_examined {s s' : Subject} (ht : Template.of? s.intent = some s.template)
    (template_eq : s'.template = s.template) (intent_eq : s'.intent = s.intent)
    (account_eq : s'.account = s.account)
    (token_eq : s'.parameters.primary.token = (examine desk s).subject.parameters.primary.token) :
    inferences s' = [] := by
  rw [List.eq_nil_iff_forall_not_mem]
  intro inferred h
  have ht' : Template.of? s'.intent = some s'.template := by
    rw [intent_eq, template_eq]
    exact ht
  obtain ⟨required, unstated, supplied⟩ := mem_inferences h
  rw [(mem_inferences_of? ht' h).1] at required unstated supplied
  rw [template_eq] at required
  rw [account_eq] at supplied
  have stated : isStated (examine desk s).subject.parameters.primary "token" = true :=
    isStated_token_examine required supplied
  rw [isStated_eq (examine desk s).subject.parameters.primary.token rfl, ← token_eq] at stated
  rw [isStated_eq s'.parameters.primary.token rfl, stated] at unstated
  cases unstated

end

/-! ## Both ways lead to the same parameters -/

/-- The subject after a venue was chosen for a request. -/
def venueChosen (desk : Desk) (moment : Moment) (r : Request) (t : Template) (v : Venue) :
    Subject where
  intent := r.intent
  parameters := estimated desk r.intent (some t) r.account
    ((examine desk (requested desk moment r t)).subject.parameters.revise { primary := .naming v })
  template := t
  account := r.account

section

variable {desk : Desk} {moment : Moment} {r : Request} {t : Template} {e : Entity} {v : Venue}

theorem examine_venueChosen (ht : Template.of? r.intent = some t) :
    (examine desk (venueChosen desk moment r t v)).subject = venueChosen desk moment r t v := by
  have nothing : inferences (venueChosen desk moment r t v) = [] :=
    inferences_eq_nil_of_examined (s := requested desk moment r t) ht rfl rfl rfl rfl
  rw [examine_of_inferences_eq_nil desk _ nothing]

/-- A venue that is named and a token that is inferred are entered in either order. -/
theorem revise_naming_comm (p : Primary) (v : Venue) {inferred : Table String}
    (h : inferred.get? "protocol" = none) :
    (p.revise (.naming v)).revise (inferredRevision inferred) =
      (p.revise (inferredRevision inferred)).revise (.naming v) := by
  unfold inferredRevision
  rw [h]
  rfl

theorem primary_venueChosen (desk : Desk) (moment : Moment) (ht : Template.of? r.intent = some t)
    (names : e.Names v) (unnamed : Entity.ofKind .protocol r.entities = []) :
    (venueChosen desk moment r t v).parameters.primary =
      (examine desk (requested desk moment (r.naming e) t)).subject.parameters.primary := by
  have no_protocol : (inferences (requested desk moment r t)).get? "protocol" = none :=
    get?_inferences_protocol ht
  calc (venueChosen desk moment r t v).parameters.primary
      = (examine desk (requested desk moment r t)).subject.parameters.primary.revise (.naming v) := rfl
    _ = ((requested desk moment r t).parameters.primary.revise
          (inferredRevision (inferences (requested desk moment r t)))).revise (.naming v) := by
        rw [primary_examine]
    _ = ((requested desk moment r t).parameters.primary.revise (.naming v)).revise
          (inferredRevision (inferences (requested desk moment r t))) := by
        rw [revise_naming_comm _ v no_protocol]
    _ = (examine desk (requested desk moment (r.naming e) t)).subject.parameters.primary := by
        rw [primary_examine, inferences_requested_naming ht names unnamed,
          primary_requested_naming names unnamed]

theorem tuning_venueChosen (desk : Desk) (moment : Moment) (t : Template) (names : e.Names v)
    (unnamed : Entity.ofKind .protocol r.entities = []) :
    (venueChosen desk moment r t v).parameters.tuning =
      (examine desk (requested desk moment (r.naming e) t)).subject.parameters.tuning := by
  show (examine desk (requested desk moment r t)).subject.parameters.tuning = _
  rw [tuning_examine, tuning_examine, tuning_requested_naming names unnamed]

/-- To choose a venue leads to the parameters that a request with the venue has. -/
theorem parameters_venueChosen (desk : Desk) (moment : Moment) (ht : Template.of? r.intent = some t)
    (names : e.Names v) (unnamed : Entity.ofKind .protocol r.entities = []) :
    (venueChosen desk moment r t v).parameters =
      (examine desk (requested desk moment (r.naming e) t)).subject.parameters := by
  have primary_eq := primary_venueChosen desk moment ht names unnamed
  have tuning_eq := tuning_venueChosen desk moment t names unnamed
  rw [parameters_examine desk _ (fresh_requested desk moment (r.naming e) t)] at primary_eq tuning_eq ⊢
  exact estimated_congr desk r.intent (some t) r.account primary_eq tuning_eq

end

end Desk

end Teller
