import Teller.Proofs.Desk.Answers

/-!
# What always has an outcome

A command can be built whenever its intent has a template: its gas is small enough to be a whole
number, however it is adjusted. So a request with such an intent has an outcome, and so has every
answer but to cancel that is offered and keeps to such an intent. If the intent is unclear, it can
be asked for.

    Command.adjustedGas_cases       what holds of the gas of the templates
    Command.toBool_adjustedGas      it can be adjusted
    exists_build_eq_ok              a command can be built
    exists_clarify_eq_ok            what the user wants can be asked
    exists_parse_eq_ok              a request has an outcome
    exists_resolve_eq_ok            an answered question has an outcome
-/

namespace Teller

/-! ## Gas -/

namespace Command

/-- The gas of a command, from what it starts with and what is adjusted. -/
def adjustedGas (start : Int) (hops levered : Bool) (venue : Option Venue) : Except Fault Int := do
  let start ← Number.realOf start
  let routed := if hops then start * 1.5 else start
  let raised := if levered then routed * 1.3 else routed
  let base ← Number.wholeOf raised
  Number.wholeOf ((← Number.realOf base) * gasFactor venue)

theorem gasOf_eq (intent : Intent) (p : Parameters) (template : Option Template) :
    gasOf intent p template =
      adjustedGas (startingGas intent template) (isMultiHop p) (isLevered p) (venue? p) := rfl

def startingGases : List Int := [0, 120000, 150000, 180000, 200000, 250000, 300000, 400000]

/-- Venues of every factor for the gas. -/
def gasVenues : List (Option Venue) := [none, some .symphony, some .citrex, some .silo]

/-- What holds of the gas of the templates, however it is adjusted: there are few of them, and few
factors. -/
theorem adjustedGas_cases (p : Except Fault Int → Prop)
    (h : ∀ start ∈ startingGases, ∀ hops levered : Bool,
    ∀ venue ∈ gasVenues, p (adjustedGas start hops levered venue)) {t : Template} (ht : t ∈ Template.all)
    (hops levered : Bool) (venue : Option Venue) :
    p (adjustedGas (startingGas t.intent (some t)) hops levered venue) := by
  have starts : ∀ t ∈ Template.all, startingGas t.intent (some t) ∈ startingGases := by decide
  have adjusted := h _ (starts t ht) hops levered
  cases venue with
  | none => exact adjusted none (by decide)
  | some v =>
    cases v with
    | dragonswap | takara => exact adjusted none (by decide)
    | symphony | citrex | silo => exact adjusted _ (by decide)

/-- The gas of the templates can be adjusted. -/
theorem toBool_adjustedGas {t : Template} (ht : t ∈ Template.all) (hops levered : Bool)
    (venue : Option Venue) :
    (adjustedGas (startingGas t.intent (some t)) hops levered venue).toBool = true :=
  adjustedGas_cases (·.toBool = true) (by decide +kernel) ht hops levered venue

end Command

namespace Desk

open Review

variable (desk : Desk) (moment : Moment) (number : Nat)

/-! ## Outcomes -/

/-- A command can be built. -/
theorem exists_build_eq_ok (config : Command.Config) (time : Int) (number : Nat)
    (parameters : Parameters) {intent : Intent} {t : Template} (ht : Template.of? intent = some t) :
    ∃ c, Command.build config time number { intent, parameters, template := some t } = .ok c := by
  obtain ⟨known, rfl⟩ := Template.of?_eq_some ht
  have adjustable := Command.toBool_adjustedGas known (Command.isMultiHop parameters)
    (Command.isLevered parameters) (Command.venue? parameters)
  rw [← Command.gasOf_eq] at adjustable
  unfold Command.build
  dsimp only
  split
  · next fault failed =>
    rw [failed] at adjustable
    cases adjustable
  · exact ⟨_, rfl⟩

theorem exists_process_eq_ok (confidence : Float) {s : Subject}
    (ht : Template.of? s.intent = some s.template) :
    ∃ o, process desk moment number confidence s = .ok o := by
  rw [← intent_examine desk s, ← template_examine desk s] at ht
  obtain ⟨c, built⟩ := exists_build_eq_ok desk.commands moment.milliseconds number
    (examine desk s).subject.parameters ht
  unfold process
  dsimp only
  rw [built]
  exact ⟨_, rfl⟩

/-- What the user wants can be asked. -/
theorem exists_ask_unclear (entities : List Entity) (account : Option Account) :
    ∃ q, Question.ask {
      intent := .unknown
      entities
      ambiguities := Ambiguity.detect .unknown entities account false
      account } = .ok q := by
  have unclear : Ambiguity.unclearIntent ∈ Ambiguity.detect .unknown entities account false :=
    (Ambiguity.mem_detect ..).2 rfl
  exact Question.exists_ask_eq_ok _ false (List.ne_nil_of_mem unclear)
    fun a ha => (Ambiguity.mem_detect ..).1 ha

theorem exists_clarify_eq_ok (entities : List Entity) (account : Option Account) :
    ∃ o, clarify desk moment entities account = .ok o := by
  obtain ⟨q, asked⟩ := exists_ask_unclear entities account
  unfold clarify
  dsimp only
  rw [asked]
  exact ⟨_, rfl⟩

/-- A request whose intent has a template has an outcome. -/
theorem exists_parse_eq_ok {r : Request} {t : Template} (ht : Template.of? r.intent = some t) :
    ∃ o, parse desk moment number r = .ok o := by
  rw [parse_eq_process desk moment number ht]
  exact exists_process_eq_ok desk moment number r.confidence ht

/-- An answered question has an outcome, if the answer is offered, does not cancel and keeps to an
intent with a template. -/
theorem exists_resolve_eq_ok {r : Reply} {choice : Choice} {t : Template}
    (found : r.question.find? r.choice = some choice) (proceeds : r.choice ≠ Question.cancelId)
    (ht : Template.of? (chosenIntent r choice) = some t) :
    ∃ o, resolve desk moment number r = .ok o := by
  rw [resolve_eq, found]
  dsimp only
  rw [if_neg proceeds, ht]
  exact exists_process_eq_ok desk moment number r.confidence ht

end Desk

end Teller
