import Teller.Proofs.Desk.Answers
import Teller.Proofs.Validation.Limits

/-!
# Limits that commands keep

The rules of a template limit amounts, leverages and slippages. Every number of a command that such
a rule is about has been read and is within the limits, unless it is NaN. Amounts are never NaN, as
they must be positive; a leverage or a slippage is NaN if the user says so.

    Reports.within_limits           the numbers that the rules of a template limit
    Reports.amount_of_rule          amounts where there is a rule for them
    limits                          how far the limits hold in every command
    leverage_beyond_limits          a command whose leverage is NaN
-/

namespace Teller

/-! ## Numbers that rules limit -/

theorem Outcome.Reports.within_limits {desk : Desk} {s : Review.Subject} {o : Outcome} {c : Command}
    (h : o.Reports (Desk.examine desk s)) (posed : s.Posed) (hc : o.command = some c) {rule : Rule}
    (mem : rule ∈ s.template.rules) {k : Rule.Constraints} (hk : rule.constraints = some k)
    {value : FieldValue} (hv : c.parameters.get? rule.field = some value) :
    ∃ x, Rule.numberOf? value = .ok (some x) ∧ (k.Admits x ↔ x.isNaN = false) ∧
      (rule.check = some .positive → x.isNaN = false) := by
  obtain ⟨known, _⟩ := Template.of?_eq_some posed.template_eq
  obtain ⟨number, bounded⟩ := Rule.isBounded_of_mem_all known mem hk
  exact (h.holds hc mem hv).exists_number hk number bounded

/-- Where there is a rule for amounts, an amount is a number from a hundredth upwards. -/
theorem Outcome.Reports.amount_of_rule {desk : Desk} {s : Review.Subject} {o : Outcome} {c : Command}
    (h : o.Reports (Desk.examine desk s)) (posed : s.Posed) (hc : o.command = some c) {rule : Rule}
    (mem : rule ∈ s.template.rules) (field : rule.field = "amount") {text : String}
    (ha : c.parameters.primary.amount = some text) :
    ∃ x, Number.read? text = some x ∧ 0.01 ≤ x := by
  obtain ⟨known, _⟩ := Template.of?_eq_some posed.template_eq
  obtain ⟨check, k, hk, least⟩ := Template.amount_rule known mem field
  have value : c.parameters.get? rule.field = some (.text text) := by
    rw [field]
    exact Parameters.get?_of_primary (congrArg (Option.map FieldValue.text) ha)
  obtain ⟨x, hx, admits_iff, positive⟩ := h.within_limits posed hc mem hk value
  exact ⟨x, Except.ok.inj hx, (admits_iff.2 (positive check)).least 0.01 least⟩

namespace Desk

/-- The numbers of a command that the rules of its template limit. -/
theorem Gives.within_limits {desk : Desk} {o : Outcome} {c : Command} (h : Gives desk o)
    (hc : o.command = some c) {t : Template} (ht : Template.of? c.intent = some t) {rule : Rule}
    (mem : rule ∈ t.rules) {k : Rule.Constraints} (hk : rule.constraints = some k)
    {value : FieldValue} (hv : c.parameters.get? rule.field = some value) :
    ∃ x, Rule.numberOf? value = .ok (some x) ∧ (k.Admits x ↔ x.isNaN = false) ∧
      (rule.check = some .positive → x.isNaN = false) := by
  rcases h.reports with clarifies | ⟨s, posed, reports⟩
  · rw [clarifies.command_eq] at hc
    cases hc
  · have same := posed.template_eq
    rw [← reports.intent_of_command hc, ht] at same
    cases same
    exact reports.within_limits posed hc mem hk hv

/-! ## Leverage and slippage -/

theorem Gives.between_iff {desk : Desk} {o : Outcome} {c : Command} (h : Gives desk o)
    (hc : o.command = some c) {t : Template} (ht : Template.of? c.intent = some t) {rule : Rule}
    (mem : rule ∈ t.rules) {least most : Float}
    (hk : rule.constraints = some { least := some least, most := some most }) {x : Float}
    (hx : c.parameters.primary.get? rule.field = some (.real x)) :
    least ≤ x ∧ x ≤ most ↔ x.isNaN = false := by
  obtain ⟨y, hy, admits_iff, _⟩ := h.within_limits hc ht mem hk (Parameters.get?_of_primary hx)
  cases hy
  rw [← admits_iff]
  constructor
  · rintro ⟨above, below⟩
    constructor
    · rintro b ⟨⟩
      exact above
    · rintro b ⟨⟩
      exact below
  · rintro ⟨above, below⟩
    exact ⟨above least rfl, below most rfl⟩

theorem Gives.leverage_between_iff {desk : Desk} {o : Outcome} {c : Command} (h : Gives desk o)
    (hc : o.command = some c) (levered : c.intent = .borrow ∨ c.intent = .openPosition) {x : Float}
    (hx : c.parameters.primary.leverage = some x) : 1 ≤ x ∧ x ≤ 50 ↔ x.isNaN = false := by
  obtain ⟨t, ht, mem⟩ : ∃ t, Template.of? c.intent = some t ∧ Template.leverageRule ∈ t.rules := by
    rcases levered with intent | intent
    all_goals
      rw [intent]
      exact ⟨_, rfl, by simp⟩
  exact h.between_iff hc ht mem rfl (congrArg (Option.map FieldValue.real) hx)

theorem Gives.slippage_between_iff {desk : Desk} {o : Outcome} {c : Command} (h : Gives desk o)
    (hc : o.command = some c)
    (exchanges : c.intent = .swap ∨ c.intent = .addLiquidity ∨ c.intent = .arbitrage) {x : Float}
    (hx : c.parameters.primary.slippage = some x) : 0 ≤ x ∧ x ≤ 50 ↔ x.isNaN = false := by
  obtain ⟨t, ht, mem⟩ : ∃ t, Template.of? c.intent = some t ∧ Template.slippageRule ∈ t.rules := by
    rcases exchanges with intent | intent | intent
    all_goals
      rw [intent]
      exact ⟨_, rfl, by simp⟩
  exact h.between_iff hc ht mem rfl (congrArg (Option.map FieldValue.real) hx)

/-- How far the limits hold in every command: a number that a rule of its template limits has been
read and is within the limits exactly if it is not NaN, which it never is where it must be positive.
So a leverage is between one and fifty, and a slippage between zero and fifty, exactly if it is not
NaN. -/
theorem limits (desk : Desk) (o : Outcome) (c : Command) (h : Gives desk o)
    (hc : o.command = some c) :
    (∀ t, Template.of? c.intent = some t → ∀ rule ∈ t.rules, ∀ k, rule.constraints = some k →
      ∀ value, c.parameters.get? rule.field = some value →
        ∃ x, Rule.numberOf? value = .ok (some x) ∧ (k.Admits x ↔ x.isNaN = false) ∧
          (rule.check = some .positive → x.isNaN = false)) ∧
    (c.intent = .borrow ∨ c.intent = .openPosition → ∀ x, c.parameters.primary.leverage = some x →
      (1 ≤ x ∧ x ≤ 50 ↔ x.isNaN = false)) ∧
    (c.intent = .swap ∨ c.intent = .addLiquidity ∨ c.intent = .arbitrage →
      ∀ x, c.parameters.primary.slippage = some x → (0 ≤ x ∧ x ≤ 50 ↔ x.isNaN = false)) :=
  ⟨fun _ ht _ mem _ hk _ hv => h.within_limits hc ht mem hk hv,
    fun levered _ hx => h.leverage_between_iff hc levered hx,
    fun exchanges _ hx => h.slippage_between_iff hc exchanges hx⟩

def borrowWith (leverage : String) : Request where
  intent := .borrow
  entities := [{ kind := .amount, value := "100", normalized := "100" },
    { kind := .token, value := "USDC", normalized := "USDC" },
    { kind := .protocol, value := "Silo", normalized := "silo" },
    { kind := .leverage, value := leverage, normalized := leverage }]

theorem borrowWithThree_limited : ∃ o c x, parse {} ⟨0, 0⟩ 1 (borrowWith "3x") = .ok o ∧
    o.command = some c ∧ c.parameters.primary.leverage = some x ∧ 1 ≤ x ∧ x ≤ 50 := by
  obtain ⟨o, c, x, ho, hc, intent, hx, number⟩ :=
    exists_command_stating (parse {} ⟨0, 0⟩ 1 (borrowWith "3x")) .borrow
      (·.parameters.primary.leverage) (fun x => !x.isNaN) (by decide +kernel)
  rw [Bool.not_eq_true'] at number
  exact ⟨o, c, x, ho, hc, hx,
    ((limits {} o c (.parsed _ _ _ ho) hc).2.1 (.inl intent) x hx).2 number⟩

/-- A command whose leverage is NaN is handed out. -/
theorem leverage_beyond_limits : ∃ o c x, parse {} ⟨0, 0⟩ 1 (borrowWith "nan") = .ok o ∧
    o.command = some c ∧ c.intent = .borrow ∧ c.parameters.primary.leverage = some x ∧
    ¬(1 ≤ x ∧ x ≤ 50) := by
  obtain ⟨o, c, x, ho, hc, intent, hx, beyond⟩ :=
    exists_command_stating (parse {} ⟨0, 0⟩ 1 (borrowWith "nan")) .borrow
      (·.parameters.primary.leverage) (fun x => !decide (1 ≤ x ∧ x ≤ 50)) (by decide +kernel)
  rw [Bool.not_eq_true', decide_eq_false_iff_not] at beyond
  exact ⟨o, c, x, ho, hc, intent, hx, beyond⟩

end Desk

end Teller
