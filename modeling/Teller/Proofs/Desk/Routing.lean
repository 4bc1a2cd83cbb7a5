import Teller.Proofs.Desk.Dialogue
import Teller.Proofs.Question.Choices

/-!
# Where commands are routed to

The rule for protocols lets any known venue pass, whether or not it serves the intent; an intent
that a single venue serves is never asked for one. So a command goes to the venue that the request
names, or to one that serves its intent, or, if only one does, to none. The desk itself never picks
a venue that does not serve the intent.

    Command.IsServed                    the venue of a command serves its intent
    isKnown_of_reports                  a venue that is named is a known one
    protocol_isSome_of_reports          one is named if several serve the intent
    Dialogue.routed                     it was named by the request, or it serves the intent
    routing                             where commands are routed to
    not_served                          commands whose venue does not serve the intent
-/

namespace Teller

/-- The venue of a command, in any case, is one that serves its intent. -/
def Command.IsServed (c : Command) : Prop :=
  ∃ p, c.parameters.primary.protocol = some p ∧ ∃ v ∈ Venue.serving c.intent, Text.lower p = v.id

instance (c : Command) : Decidable c.IsServed :=
  decidable_of_iff (c.parameters.primary.protocol.any fun p =>
      (Venue.serving c.intent).any fun v => Text.lower p == v.id) <| by
    simp [Command.IsServed, Option.any_eq_true, List.any_eq_true]

/-- A protocol is the one that was named, or one that serves the intent. -/
def Venue.IsRouted (named : Option String) (intent : Intent) (protocol : Option String) : Prop :=
  protocol = named ∨ ∃ v ∈ serving intent, protocol = some v.id

/-- An outcome keeps to the named protocol and to those that serve its intent, and so does whatever
is chosen next. -/
structure Outcome.Routed (named : Option String) (o : Outcome) : Prop where
  protocol : Venue.IsRouted named o.intent o.parameters.primary.protocol
  choices : ∀ q, o.question = some q → ∀ c ∈ q.choices, c.KeepsVenue o.intent ∨
    o.parameters.primary.protocol = named ∧ c.revision.primary.protocol = none

namespace Desk

open Review

/-! ## Known venues -/

theorem isKnown_of_reports {desk : Desk} {s : Subject} {o : Outcome} {c : Command} {p : String}
    (h : o.Reports (examine desk s)) (posed : s.Posed) (hc : o.command = some c)
    (required : Venue.isRequired c.intent = true)
    (named : c.parameters.primary.protocol = some p) : Venue.isKnown p = true := by
  obtain ⟨known, same⟩ := Template.of?_eq_some posed.template_eq
  rw [h.intent_of_command hc, ← same] at required
  obtain ⟨rule, mem, field, kind⟩ := Template.exists_protocol_rule known required
  have value : c.parameters.get? rule.field = some (.text p) := by
    rw [field]
    exact Parameters.get?_of_primary (congrArg (Option.map FieldValue.text) named)
  have fits := (h.holds hc mem value).fits
  rw [kind] at fits
  exact Except.ok.inj fits

/-- A venue is named if several serve the intent. -/
theorem protocol_isSome_of_reports {desk : Desk} {s : Subject} {o : Outcome} {c : Command}
    (h : o.Reports (examine desk s)) (posed : s.Posed) (hc : o.command = some c)
    (several : 1 < (Venue.serving c.intent).length) :
    c.parameters.primary.protocol.isSome := by
  rw [h.parameters_of_command hc, protocol_examine desk s posed.template_eq]
  apply posed.protocol_isSome
  have clear : Ambiguity.lacksProtocol s.intent s.allEntities = false :=
    h.not_applies hc posed.template_eq (a := .missingProtocol) (by decide)
  rw [h.intent_of_command hc] at several
  simpa [Ambiguity.lacksProtocol, several] using clear

/-! ## Routes -/

theorem lower_id (v : Venue) : Text.lower v.id = v.id := by
  cases v <;> decide +kernel

def named? (desk : Desk) (r : Request) : Option String :=
  firstText? .protocol (normalize desk r.entities r.account)

theorem keepsVenue_of_openQuestion? {s : Subject} {q : Question} (h : openQuestion? s = some q)
    (known : s.intent ≠ .unknown) {c : Choice} (hc : c ∈ q.choices) : c.KeepsVenue s.intent := by
  obtain ⟨a, ha, about⟩ := about_openQuestion? h
  refine Question.keepsVenue_of_about? ?_ about hc
  rintro rfl
  exact known (eq_of_beq (applies_of_mem_ambiguities ha))

theorem ne_unknown_of_of? {intent : Intent} {t : Template} (h : Template.of? intent = some t) :
    intent ≠ .unknown := by
  rintro rfl
  rw [Template.of?_unknown] at h
  cases h

theorem routed_of_reports {desk : Desk} {s : Subject} {o : Outcome} {named : Option String}
    (h : o.Reports (examine desk s)) (ht : Template.of? s.intent = some s.template)
    (routed : Venue.IsRouted named s.intent s.parameters.primary.protocol) : o.Routed named where
  protocol := by
    rw [h.intent_eq, h.parameters_eq, intent_examine, protocol_examine desk s ht]
    exact routed
  choices := by
    intro q hq c hc
    rw [h.question_eq, question_examine] at hq
    rw [h.intent_eq]
    exact .inl (keepsVenue_of_openQuestion? hq (by simpa using ne_unknown_of_of? ht) hc)

theorem routed_of_parse {desk : Desk} {moment : Moment} {number : Nat} {r : Request} {o : Outcome}
    (h : parse desk moment number r = .ok o) : o.Routed (named? desk r) := by
  rcases parse_eq_ok h with ⟨_, clarifies, parameters_eq⟩ | ⟨t, ht, reports⟩
  · have named : o.parameters.primary.protocol = named? desk r := by
      rw [parameters_eq]
      rfl
    refine ⟨.inl named, fun q hq c hc => .inr ⟨named, ?_⟩⟩
    obtain ⟨q', asked, hq'⟩ := clarifies.question_eq
    rw [hq'] at hq
    cases hq
    rw [Question.unclearIntent_choices asked hc]
  · exact routed_of_reports reports ht (.inl rfl)

/-- An answer keeps to the route. -/
theorem Follows.routed {desk : Desk} {o o' : Outcome} {named : Option String}
    (h : Follows desk o o') (routed : o.Routed named) : o'.Routed named := by
  obtain ⟨s, q, choice, asked, offered, intent_eq, _, primary_eq, _, ht, reports⟩ := h.reports
  refine routed_of_reports reports ht ?_
  rw [intent_eq, primary_eq]
  show Venue.IsRouted named _ (choice.revision.primary.protocol.apply _)
  rcases routed.choices q asked choice offered with keeps | ⟨as_named, kept⟩
  · rw [keeps.intent_eq]
    rcases keeps.protocol with kept | ⟨v, serves, chosen⟩
    · rw [kept]
      exact routed.protocol
    · rw [chosen]
      exact .inr ⟨v, serves, rfl⟩
  · rw [kept]
    exact .inl as_named

/-- In a dialogue, a venue was named by the request or serves the intent. -/
theorem Dialogue.routed {desk : Desk} {r : Request} {outcomes : List Outcome}
    (d : Dialogue desk r outcomes) : ∀ o ∈ outcomes, o.Routed (named? desk r) :=
  d.invariant (fun _ _ _ h => routed_of_parse h) fun _ _ follows routed => follows.routed routed

theorem isServed_of_isRouted {c : Command} {named : Option String} {p : String}
    (routed : Venue.IsRouted named c.intent c.parameters.primary.protocol)
    (hp : c.parameters.primary.protocol = some p) : named = some p ∨ c.IsServed := by
  rcases routed with as_named | ⟨v, serves, chosen⟩
  · exact .inl (as_named.symm.trans hp)
  · exact .inr ⟨v.id, chosen, v, serves, lower_id v⟩

/-- Where commands are routed to: a venue that is named is a known one, and one is named if several
serve the intent; in a dialogue it is the one that the request named, or it serves the intent. -/
theorem routing (desk : Desk) :
    (∀ o c, Gives desk o → o.command = some c → Venue.isRequired c.intent = true →
      (∀ p, c.parameters.primary.protocol = some p → Venue.isKnown p = true) ∧
      (1 < (Venue.serving c.intent).length → c.parameters.primary.protocol.isSome)) ∧
    (∀ r outcomes, Dialogue desk r outcomes → ∀ o ∈ outcomes, ∀ c, o.command = some c →
      ∀ p, c.parameters.primary.protocol = some p → named? desk r = some p ∨ c.IsServed) := by
  constructor
  · intro o c gives hc required
    rcases gives.reports with clarifies | ⟨s, posed, reports⟩
    · rw [clarifies.command_eq] at hc
      cases hc
    · exact ⟨fun p named => isKnown_of_reports reports posed hc required named,
        protocol_isSome_of_reports reports posed hc⟩
  · intro r outcomes d o ho c hc p hp
    obtain ⟨intent_eq, parameters_eq⟩ := (d.gives o ho).of_command hc
    have routed := (d.routed o ho).protocol
    rw [← intent_eq, ← parameters_eq] at routed
    exact isServed_of_isRouted routed hp

def lendHundred : Request where
  intent := .lend
  entities := [{ kind := .amount, value := "100", normalized := "100" },
    { kind := .token, value := "USDC", normalized := "USDC" }]

theorem lendHundred_served : ∃ o earlier c, Dialogue {} lendHundred (o :: earlier) ∧
    o.command = some c ∧ Venue.isRequired c.intent = true ∧ c.IsServed := by
  have ends : (converse {} ⟨0, 0⟩ lendHundred ["protocol_takara"]).toOption.any
      (·.head?.any (·.command.any fun c => c.intent = .lend)) := by
    decide +kernel
  obtain ⟨o, earlier, d, handed_out⟩ := exists_dialogue_of_converse ends
  obtain ⟨c, hc, lend⟩ := (Option.any_eq_true ..).1 handed_out
  have lend : c.intent = .lend := of_decide_eq_true lend
  have required : Venue.isRequired c.intent = true := by
    rw [lend]
    rfl
  have given := d.gives o List.mem_cons_self
  have set := ((routing {}).1 o c given hc required).2 (by rw [lend]; decide)
  obtain ⟨p, hp⟩ := Option.isSome_iff_exists.1 set
  have unnamed : named? {} lendHundred = none := by decide +kernel
  rcases (routing {}).2 _ _ d o List.mem_cons_self c hc p hp with named | served
  · rw [unnamed] at named
    cases named
  · exact ⟨o, earlier, c, d, hc, required, served⟩

/-- To lend a hundred USDC at a venue for swaps. -/
def lendAtDragonswap : Request where
  intent := .lend
  entities := [{ kind := .amount, value := "100", normalized := "100" },
    { kind := .token, value := "USDC", normalized := "USDC" },
    { kind := .protocol, value := "DragonSwap", normalized := "dragonswap" }]

/-- To close a position, without a venue. -/
def closePosition : Request where
  intent := .closePosition
  entities := [{ kind := .token, value := "ETH", normalized := "ETH" }]

theorem exists_not_served {r : Request} (h : (parse {} ⟨0, 0⟩ 1 r).toOption.any fun o =>
      o.command.any fun c => Venue.isRequired c.intent && !decide c.IsServed) :
    ∃ o c, parse {} ⟨0, 0⟩ 1 r = .ok o ∧ o.command = some c ∧
      Venue.isRequired c.intent = true ∧ ¬c.IsServed := by
  obtain ⟨o, ho, found⟩ := exists_eq_ok_of_any h
  obtain ⟨c, hc, unserved⟩ := (Option.any_eq_true ..).1 found
  rw [Bool.and_eq_true, Bool.not_eq_true', decide_eq_false_iff_not] at unserved
  exact ⟨o, c, ho, hc, unserved⟩

/-- A venue that is named need not serve the intent, and where only one serves it none need be
named. -/
theorem not_served :
    (∃ o c, parse {} ⟨0, 0⟩ 1 lendAtDragonswap = .ok o ∧ o.command = some c ∧
      Venue.isRequired c.intent = true ∧ ¬c.IsServed) ∧
    (∃ o c, parse {} ⟨0, 0⟩ 1 closePosition = .ok o ∧ o.command = some c ∧
      Venue.isRequired c.intent = true ∧ ¬c.IsServed) := by
  constructor
  · exact exists_not_served (by decide +kernel)
  · exact exists_not_served (by decide +kernel)

end Desk

end Teller
