import Teller.Proofs.Desk.Limits
import Teller.Proofs.Desk.RiskGate

/-!
# Amounts that commands carry

A stated amount that cannot be read, or is out of the permitted range, is kept as it was typed and
left to the rules of the template to report. Where there is a rule for amounts, commands carry
finite amounts from a hundredth up to fifty thousand, above which the risk is asked about first; so
the range is kept if it includes these. Where there is none, any text passes.

    Config.Admits                a text names an amount in the permitted range
    KeepsAmounts                 amounts are looked at, and the range includes what passes
    admits_of_keepsAmounts       then commands carry amounts in the range
    amountText_of_isSettled      an amount that is kept as it was typed, whatever the range
    keepsAmounts_of_inRange      only then
    amounts_in_range             when commands carry amounts in the range
    amount_out_of_range          a command whose amount is no number
-/

namespace Teller

/-- A text names a finite amount in the permitted range. -/
def Amount.Config.Admits (config : Amount.Config) (text : String) : Prop :=
  ∃ x, Number.read? text = some x ∧ x.isFinite ∧ config.least ≤ x ∧ x ≤ config.most

namespace Desk

open Review

/-- Whatever is requested with an intent, a command carries no amount but one in the permitted
range. -/
def AmountsInRange (desk : Desk) (intent : Intent) : Prop :=
  ∀ moment number r o c text, r.intent = intent → parse desk moment number r = .ok o →
    o.command = some c → c.parameters.primary.amount = some text → desk.amounts.Admits text

/-- An intent that leads to commands at once has a rule for amounts, and the permitted range
includes what this rule and the question about the risk let pass. -/
def KeepsAmounts (config : Amount.Config) (intent : Intent) : Prop :=
  ∀ t, Template.of? intent = some t → Ambiguity.isRisky intent = true ∨
    (∃ rule ∈ t.rules, rule.field = "amount") ∧ config.least ≤ 0.01 ∧ 50000 ≤ config.most

/-! ## Where amounts are looked at -/

theorem admits_of_between {config : Amount.Config} {text : String} {x : Float}
    (hx : Number.read? text = some x) (least : config.least ≤ 0.01) (most : 50000 ≤ config.most)
    (above : 0.01 ≤ x) (below : x ≤ 50000) : config.Admits text := by
  refine ⟨x, hx, ?_, Number.le_trans least above, Number.le_trans below most⟩
  exact Number.isFinite_of_le_of_le (by decide) (by decide) above below

/-- Where amounts are looked at and the range includes what passes, commands carry amounts in the
range. -/
theorem admits_of_keepsAmounts {desk : Desk} {intent : Intent}
    (keeps : KeepsAmounts desk.amounts intent) : AmountsInRange desk intent := by
  intro moment number r o c text hr ho hc ha
  have unrisky := not_isRisky_of_parse ho hc
  rcases parse_eq_ok ho with ⟨_, clarifies, _⟩ | ⟨t, ht, reports⟩
  · rw [clarifies.command_eq] at hc
    cases hc
  · have posed := posed_requested desk moment ht
    rw [hr] at ht
    rcases keeps t ht with risky | ⟨⟨rule, mem, field⟩, least, most⟩
    · have intent_eq : c.intent = intent := (reports.intent_of_command hc).trans hr
      refine absurd (Command.IsRisky.intent ?_) unrisky
      rw [intent_eq]
      exact (Subject.isRisky_iff intent).1 risky
    · obtain ⟨x, hx, above⟩ := reports.amount_of_rule posed hc mem field ha
      have not_large : ¬50000 < x := by
        intro large
        refine unrisky (.amount x ?_ large)
        rw [ha]
        exact hx
      exact admits_of_between hx least most above
        (Number.le_of_not_lt (Number.not_isNaN_of_le above).2 (by decide) not_large)

/-! ## Amounts kept as they were typed -/

/-- Whatever strategy reads a text, the number it finds is written as the text is. -/
def isSettled (text : String) : Bool :=
  Amount.Strategy.order.all fun strategy =>
    match Amount.candidate? {} none (Amount.normalize text) strategy with
    | .ok (some candidate) => Number.plain candidate.value == text
    | _ => true

/-- Without bases, what a strategy finds does not depend on the configuration. -/
theorem candidate?_none (config : Amount.Config) (text : List Char) (strategy : Amount.Strategy) :
    Amount.candidate? config none text strategy = Amount.candidate? {} none text strategy := by
  cases strategy <;> rfl

theorem normalized_of_isSettled {config : Amount.Config} {text : String} {r : Amount.Reading}
    (settled : isSettled text = true) (h : Amount.parse config none (some text) = .ok r) :
    r.normalized = text := by
  rw [Amount.parse, mapError_eq_ok_iff] at h
  unfold Amount.read at h
  dsimp only at h
  split at h
  · cases h
  · split at h
    · cases h
    · cases h
    · next strategy candidate found =>
      cases h
      obtain ⟨mem, hc, _⟩ := Amount.search_eq_ok found
      have same := List.all_eq_true.1 settled strategy mem
      rw [candidate?_none] at hc
      rw [show Amount.candidate? {} none (Amount.normalize text) strategy = _ from hc] at same
      exact eq_of_beq same

/-- An amount that is kept as it was typed, whatever the range. -/
theorem amountText_of_isSettled (desk : Desk) {e : Entity} (same : e.value = e.normalized)
    (settled : isSettled e.normalized = true) : amountText desk none e = e.normalized := by
  unfold amountText
  rw [same, ite_self]
  dsimp only
  split
  · next r h => exact normalized_of_isSettled settled h
  · rfl

theorem normalizeEntity_of_isSettled (config : Amount.Config) {e : Entity}
    (h : e.kind = .amount → e.value = e.normalized ∧ isSettled e.normalized = true) :
    normalizeEntity { amounts := config } none e = normalizeEntity {} none e := by
  unfold normalizeEntity normalizedText
  cases hk : e.kind with
  | amount =>
    obtain ⟨same, settled⟩ := h hk
    rw [amountText_of_isSettled _ same settled, amountText_of_isSettled _ same settled]
  | token | protocol | leverage | slippage => rfl

theorem examine_amounts (config : Amount.Config) (s : Subject) :
    examine { amounts := config } s = examine {} s := rfl

theorem process_amounts (config : Amount.Config) (moment : Moment) (number : Nat)
    (confidence : Float) (s : Subject) :
    process { amounts := config } moment number confidence s =
      process {} moment number confidence s := by
  unfold process
  rw [examine_amounts]
  rfl

/-- If all amounts are kept as they were typed, the range plays no part in the answer to a request.
-/
theorem parse_of_isSettled (config : Amount.Config) (moment : Moment) (number : Nat) {r : Request}
    (unaccounted : r.account = none)
    (h : ∀ e ∈ r.entities, e.kind = .amount →
      e.value = e.normalized ∧ isSettled e.normalized = true) :
    parse { amounts := config } moment number r = parse {} moment number r := by
  have entities : normalize { amounts := config } r.entities r.account =
      normalize {} r.entities r.account := by
    rw [unaccounted]
    exact List.map_congr_left fun e he => normalizeEntity_of_isSettled config (h e he)
  unfold parse
  dsimp only
  rw [entities]
  simp only [process_amounts]
  rfl

/-! ## Where amounts are not looked at -/

/-- A venue and the tokens that the intent asks for. -/
def companions (intent : Intent) : List Entity :=
  [{ kind := .protocol, value := "Silo", normalized := "silo" },
    { kind := .token, value := "USDC", normalized := "USDC" }] ++
    if intent = .swap then [{ kind := .token, value := "ETH", normalized := "ETH" }] else []

def requestOf (intent : Intent) (amount : String) : Request where
  intent := intent
  entities := { kind := .amount, value := amount, normalized := amount } :: companions intent

theorem kind_of_mem_companions (intent : Intent) :
    ∀ e ∈ companions intent, e.kind ≠ .amount := by
  unfold companions
  split <;> decide

theorem parse_requestOf (config : Amount.Config) (intent : Intent) {amount : String}
    (settled : isSettled amount = true) :
    parse { amounts := config } ⟨0, 0⟩ 1 (requestOf intent amount) =
      parse {} ⟨0, 0⟩ 1 (requestOf intent amount) := by
  apply parse_of_isSettled config ⟨0, 0⟩ 1 rfl
  intro e he hk
  rcases List.mem_cons.1 he with rfl | he
  · exact ⟨rfl, settled⟩
  · exact absurd hk (kind_of_mem_companions intent e he)

/-- A request with this amount leads to a command with this amount. -/
def carries (intent : Intent) (amount : String) : Bool :=
  (parse {} ⟨0, 0⟩ 1 (requestOf intent amount)).toOption.any fun o =>
    o.command.any fun c => c.parameters.primary.amount == some amount

theorem admits_of_carries {config : Amount.Config} {intent : Intent} {amount : String}
    (h : AmountsInRange { amounts := config } intent) (settled : isSettled amount = true)
    (carried : carries intent amount = true) : config.Admits amount := by
  obtain ⟨o, c, ho, hc, same⟩ := exists_command_of_any carried
  rw [← parse_requestOf config intent settled] at ho
  exact h ⟨0, 0⟩ 1 _ o c amount rfl ho hc (eq_of_beq same)

/-- What passes: the ends of what the rule and the question about the risk let through, and without
a rule anything. -/
theorem carries_of_mem_all : ∀ t ∈ Template.all, Ambiguity.isRisky t.intent = false →
    if t.rules.any (·.field == "amount") then
      carries t.intent "0.01" = true ∧ carries t.intent "50000" = true
    else carries t.intent "abc" = true := by
  decide +kernel

theorem between_of_admits {config : Amount.Config} (least : config.Admits "0.01")
    (most : config.Admits "50000") : config.least ≤ 0.01 ∧ 50000 ≤ config.most := by
  obtain ⟨x, hx, _, above, _⟩ := least
  obtain ⟨y, hy, _, _, below⟩ := most
  rw [show Number.read? "0.01" = some 0.01 by decide +kernel] at hx
  rw [show Number.read? "50000" = some 50000 by decide +kernel] at hy
  cases hx
  cases hy
  exact ⟨above, below⟩

/-- Only where amounts are looked at, and if the range includes what passes, commands carry amounts
in the range. -/
theorem keepsAmounts_of_inRange {config : Amount.Config} {intent : Intent}
    (h : AmountsInRange { amounts := config } intent) : KeepsAmounts config intent := by
  intro t ht
  obtain ⟨known, same⟩ := Template.of?_eq_some ht
  cases risky : Ambiguity.isRisky intent with
  | true => exact .inl rfl
  | false =>
    right
    have carried := carries_of_mem_all t known (by rw [same]; exact risky)
    rw [same] at carried
    split at carried
    · next ruled =>
      obtain ⟨least, most⟩ := carried
      obtain ⟨rule, mem, field⟩ := List.any_eq_true.1 ruled
      refine ⟨⟨rule, mem, eq_of_beq field⟩, ?_⟩
      exact between_of_admits (admits_of_carries h (by decide +kernel) least)
        (admits_of_carries h (by decide +kernel) most)
    · obtain ⟨x, hx, _⟩ := admits_of_carries h (by decide +kernel) carried
      rw [show Number.read? "abc" = none by decide +kernel] at hx
      cases hx

/-- When commands carry amounts in the range: if amounts are looked at and the range includes what
passes, and, with all else as usual, only then. -/
theorem amounts_in_range (intent : Intent) :
    (∀ desk : Desk, KeepsAmounts desk.amounts intent → AmountsInRange desk intent) ∧
    ∀ config, AmountsInRange { amounts := config } intent → KeepsAmounts config intent :=
  ⟨fun _ keeps => admits_of_keepsAmounts keeps, fun _ h => keepsAmounts_of_inRange h⟩

theorem lend_amount_in_range : KeepsAmounts {} .lend ∧
    ∃ o c text, parse {} ⟨0, 0⟩ 1 (requestOf .lend "2.5k") = .ok o ∧ o.command = some c ∧
      c.parameters.primary.amount = some text ∧ Amount.Config.Admits {} text := by
  have keeps : KeepsAmounts {} .lend := by
    intro t ht
    cases ht
    exact .inr ⟨⟨Template.amountRule, by simp, rfl⟩, by decide, by decide⟩
  have handed_out : (parse {} ⟨0, 0⟩ 1 (requestOf .lend "2.5k")).toOption.any fun o =>
      o.command.any fun c => c.parameters.primary.amount.isSome := by
    decide +kernel
  obtain ⟨o, c, ho, hc, set⟩ := exists_command_of_any handed_out
  obtain ⟨text, ha⟩ := Option.isSome_iff_exists.1 set
  exact ⟨keeps, o, c, text, ho, hc, ha,
    (amounts_in_range .lend).1 {} keeps _ _ _ o c text rfl ho hc ha⟩

/-- A command to close a position, whose amount is no number, is handed out. -/
theorem amount_out_of_range : ∃ o c, parse {} ⟨0, 0⟩ 1 (requestOf .closePosition "abc") = .ok o ∧
    o.command = some c ∧ c.parameters.primary.amount = some "abc" ∧
    ¬Amount.Config.Admits {} "abc" := by
  have carried : carries .closePosition "abc" = true := by decide +kernel
  obtain ⟨o, c, ho, hc, same⟩ := exists_command_of_any carried
  refine ⟨o, c, ho, hc, eq_of_beq same, ?_⟩
  rintro ⟨x, hx, _⟩
  rw [show Number.read? "abc" = none by decide +kernel] at hx
  cases hx

end Desk

end Teller
