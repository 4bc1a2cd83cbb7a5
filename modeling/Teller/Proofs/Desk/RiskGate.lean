import Teller.Proofs.Desk.Answers
import Teller.Proofs.Number.Order

/-!
# The gate before a risk

Risk is looked for in entities, while a command is built from parameters. For a request the
parameters are those of the first entities; for an answered question the entities are those that the
parameters imply, so they agree as long as the written leverage reads back. Where they agree, a
risky command is handed out only after the user has acknowledged the risk.

    Command.IsRisky                  what makes a command risky
    Subject.TellsLeverage            entities tell a high leverage of the parameters
    applies_riskConfirmation         a risk that is not acknowledged is detected
    risky_is_acknowledged            no risky command without an acknowledgement
-/

namespace Teller

/-- A command is risky by its intent, by an amount above fifty thousand or by a leverage above five.
-/
inductive Command.IsRisky (c : Command) : Prop
  | intent (h : c.intent = .openPosition ∨ c.intent = .arbitrage ∨
      c.intent = .crossProtocolArbitrage)
  | amount (x : Float) (stated : c.parameters.primary.amount.bind Number.read? = some x)
      (large : 50000 < x)
  | leverage (x : Float) (stated : c.parameters.primary.leverage = some x) (high : 5 < x)

/-- The plain written form of a number reads back as the number, or as one that equals it. -/
def Number.ReadsBack (x : Float) : Prop :=
  ∃ y, Number.read? (Number.plain x) = some y ∧ (y = x ∨ (y == x) = true)

theorem Number.ReadsBack.exists_above {bound x : Float} (h : ReadsBack x) (above : bound < x) :
    ∃ y, Number.read? (Number.plain x) = some y ∧ bound < y := by
  obtain ⟨y, hy, same⟩ := h
  rcases same with same | same
  · exact ⟨y, hy, same.symm ▸ above⟩
  · exact ⟨y, hy, Number.lt_of_lt_of_beq above same⟩

/-! ## Entities and parameters agree -/

namespace Review.Subject

open Ambiguity

/-- A leverage that is high in the parameters is high in the entities. -/
def TellsLeverage (s : Subject) : Prop :=
  ∀ x, s.parameters.primary.leverage = some x → 5 < x →
    ∃ y, firstNumber? .leverage s.allEntities = some y ∧ 5 < y

theorem tellsLeverage_of_none {s : Subject} (h : s.entities = none)
    (readsBack : ∀ x, s.parameters.primary.leverage = some x → Number.ReadsBack x) :
    s.TellsLeverage := by
  intro x hx high
  rw [allEntities, h]
  show ∃ y, firstNumber? .leverage (entitiesOf s.parameters.primary) = some y ∧ 5 < y
  rw [firstNumber?_leverage_implied, hx]
  exact (readsBack x hx).exists_above high

theorem isRisky_iff (intent : Intent) : isRisky intent = true ↔
    intent = .openPosition ∨ intent = .arbitrage ∨ intent = .crossProtocolArbitrage := by
  cases intent <;> simp [isRisky]

/-- A risk that is not acknowledged is detected. -/
theorem applies_riskConfirmation {s : Subject} (posed : s.Posed) (tells : s.TellsLeverage)
    {c : Command} (intent_eq : c.intent = s.intent)
    (amount_eq : c.parameters.primary.amount = s.parameters.primary.amount)
    (leverage_eq : c.parameters.primary.leverage = s.parameters.primary.leverage)
    (risky : c.IsRisky) (unacknowledged : s.parameters.tuning.riskAcknowledged ≠ some true) :
    s.applies .riskConfirmation = true := by
  have unread : s.parameters.tuning.riskAcknowledged.getD false = false := by
    cases h : s.parameters.tuning.riskAcknowledged with
    | none => rfl
    | some b =>
      cases b with
      | false => rfl
      | true => exact absurd h unacknowledged
  have needed : needsConfirmation s.intent s.allEntities = true := by
    simp only [needsConfirmation, Bool.or_eq_true]
    cases risky with
    | intent h =>
      rw [intent_eq] at h
      exact .inr ((isRisky_iff _).2 h)
    | amount x stated large =>
      rw [amount_eq, ← posed.amount_eq] at stated
      refine .inl (.inr ?_)
      rw [stated]
      exact decide_eq_true large
    | leverage x stated high =>
      rw [leverage_eq] at stated
      obtain ⟨y, hy, above⟩ := tells x stated high
      refine .inl (.inl ?_)
      rw [hy]
      exact decide_eq_true above
  show (!s.parameters.tuning.riskAcknowledged.getD false && needsConfirmation _ _) = true
  rw [unread, needed]
  rfl

end Review.Subject

/-! ## The gate -/

namespace Desk

open Review

theorem tellsLeverage_requested (desk : Desk) (moment : Moment) (r : Request) (t : Template) :
    (requested desk moment r t).TellsLeverage := by
  intro x hx high
  refine ⟨x, ?_, high⟩
  rw [← hx, firstNumber?_eq_bind_firstText?]
  rfl

theorem acknowledged_of_reports {desk : Desk} {s : Subject} {o : Outcome} {c : Command}
    (h : o.Reports (examine desk s)) (posed : s.Posed) (tells : s.TellsLeverage)
    (hc : o.command = some c) (risky : c.IsRisky) :
    s.parameters.tuning.riskAcknowledged = some true ∧
      c.parameters.tuning = s.parameters.tuning := by
  have parameters_eq := h.parameters_of_command hc
  refine ⟨?_, by rw [parameters_eq, tuning_examine]⟩
  by_cases acknowledged : s.parameters.tuning.riskAcknowledged = some true
  · exact acknowledged
  · have detected := Subject.applies_riskConfirmation posed tells (h.intent_of_command hc)
      (by rw [parameters_eq, amount_examine]) (by rw [parameters_eq, leverage_examine]) risky
      acknowledged
    rw [h.not_applies hc posed.template_eq (by decide)] at detected
    cases detected

theorem not_isRisky_of_parse {desk : Desk} {moment : Moment} {number : Nat} {r : Request}
    {o : Outcome} {c : Command} (h : parse desk moment number r = .ok o)
    (hc : o.command = some c) : ¬c.IsRisky := by
  intro risky
  rcases parse_eq_ok h with ⟨_, clarifies, _⟩ | ⟨t, ht, reports⟩
  · rw [clarifies.command_eq] at hc
    cases hc
  · have acknowledged := acknowledged_of_reports reports (posed_requested desk moment ht)
      (tellsLeverage_requested desk moment r t) hc risky
    cases acknowledged.1

theorem acknowledged_of_resolve {desk : Desk} {moment : Moment} {number : Nat} {r : Reply}
    {o : Outcome} {c : Command} (h : resolve desk moment number r = .ok o)
    (readsBack : ∀ p, r.question.answer r.parameters r.choice = .ok p →
      ∀ x, p.primary.leverage = some x → Number.ReadsBack x)
    (hc : o.command = some c) (risky : c.IsRisky) :
    c.parameters.tuning.riskAcknowledged = some true := by
  obtain ⟨choice, t, found, _, ht, reports⟩ := resolve_eq_ok h
  have answered : r.question.answer r.parameters r.choice =
      .ok (r.parameters.revise choice.revision) := by
    rw [Question.answer, found]
  have tells : (replied desk r choice t).TellsLeverage :=
    Subject.tellsLeverage_of_none rfl (readsBack (r.parameters.revise choice.revision) answered)
  obtain ⟨acknowledged, tuning_eq⟩ :=
    acknowledged_of_reports reports (posed_replied desk ht) tells hc risky
  rw [tuning_eq]
  exact acknowledged

/-- No risky command without an acknowledgement: none is handed out for a request at once, none for
an answered question unless the risk is acknowledged, and none at all when the user cancels. -/
theorem risky_is_acknowledged (desk : Desk) (moment : Moment) (number : Nat) :
    (∀ (r : Request) (o : Outcome) (c : Command), parse desk moment number r = .ok o →
      o.command = some c → ¬c.IsRisky) ∧
    (∀ (r : Reply) (o : Outcome) (c : Command), resolve desk moment number r = .ok o →
      (∀ p, r.question.answer r.parameters r.choice = .ok p →
        ∀ x, p.primary.leverage = some x → Number.ReadsBack x) →
      o.command = some c → c.IsRisky → c.parameters.tuning.riskAcknowledged = some true) ∧
    (∀ (r : Reply) (o : Outcome), r.choice = Question.cancelId →
      resolve desk moment number r ≠ .ok o) :=
  ⟨fun _ _ _ h hc => not_isRisky_of_parse h hc,
    fun _ _ _ h readsBack hc risky => acknowledged_of_resolve h readsBack hc risky,
    fun r o h => resolve_cancel_ne_ok desk moment number r h o⟩

/-- To go ahead with a position of tenfold leverage. -/
def proceedWithLeverage : Reply where
  intent := .openPosition
  parameters := { primary := { amount := some "1000", token := some "ETH", leverage := some 10 } }
  choice := Question.proceedId
  question := Question.riskConfirmation { intent := .openPosition, entities := [], ambiguities := [] }

theorem acknowledged_proceedWithLeverage :
    ∃ o c, resolve {} ⟨0, 0⟩ 1 proceedWithLeverage = .ok o ∧ o.command = some c ∧
      c.IsRisky ∧ c.parameters.tuning.riskAcknowledged = some true := by
  have handed_out : (resolve {} ⟨0, 0⟩ 1 proceedWithLeverage).toOption.any fun o =>
      o.command.any fun c => c.parameters.primary.leverage.any (5 < ·) := by
    decide +kernel
  obtain ⟨o, ho, hc⟩ := exists_eq_ok_of_any handed_out
  obtain ⟨c, hc, above⟩ := (Option.any_eq_true ..).1 hc
  obtain ⟨x, hx, high⟩ := (Option.any_eq_true ..).1 above
  have risky : c.IsRisky := .leverage x hx (of_decide_eq_true high)
  have readsBack : Number.ReadsBack 10 := ⟨10, by decide +kernel, .inl rfl⟩
  refine ⟨o, c, ho, hc, risky, (risky_is_acknowledged {} ⟨0, 0⟩ 1).2.1 _ o c ho ?_ hc risky⟩
  intro p answered x hx
  cases answered
  cases hx
  exact readsBack

end Desk

end Teller
