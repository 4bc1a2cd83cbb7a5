import Teller.Proofs.Command.Tuning
import Teller.Proofs.Desk.Backing
import Teller.Proofs.Desk.Slippage
import Teller.Proofs.Number.Monotone

/-!
# The slippage that an optimized swap permits

A command to swap permits the slippage that its request states. Optimization permits another one:
the usual slippage, raised in two steps for large amounts, whatever the request states. So the
stated limit is kept exactly if it is not below the usual slippage at the step of the amount, and
never if it is below the usual slippage itself.

    maxSlippage_of_optimize      what an optimized swap permits
    Config.StaysWithin           the usual slippage for an amount is not above a limit
    staysWithin_iff              it is the one that is permitted
    le_slippageFor               it is never less than for a small amount
    maxSlippage_of_reports       what a swap permits before it is optimized
    limit_kept_iff               when an optimized command keeps the stated limit
    wideLimit_kept, tightLimit_exceeded
-/

namespace Teller

open Command Number

/-! ## What is permitted -/

namespace Executable

variable {config : Config} {account : Option Account} {x y : Executable} {amount limit : Float}

theorem maxSlippage_of_optimize (h : x.optimize config account = .ok y) (swap : x.intent = .swap) :
    y.parameters.tuning.maxSlippage = some (slippageFor config (amountOf x.parameters)) := by
  obtain ⟨tuning, tuned, rfl⟩ := optimize_eq_ok_iff.1 h
  obtain ⟨price, -, tuned⟩ := bind_eq_ok tuned
  obtain ⟨limit, -, tuned⟩ := bind_eq_ok tuned
  cases tuned
  show Revised.apply (if x.intent = .swap then _ else none) _ = _
  rw [if_pos swap, Revised.apply_some]

theorem primary_of_optimize (h : x.optimize config account = .ok y) :
    y.parameters.primary = x.parameters.primary := by
  obtain ⟨tuning, tuned, rfl⟩ := optimize_eq_ok_iff.1 h
  exact (retunes_of_tuned tuned).tunes.primary_eq

end Executable

namespace Command

/-- The usual slippage is not above a limit, at the step of the amount that it is raised at. -/
structure Config.StaysWithin (config : Config) (amount limit : Float) : Prop where
  ordinary : amount ≤ 10000 → ¬limit < config.slippage
  large : 10000 < amount → amount ≤ 100000 → ¬limit < config.slippage * 1.5
  veryLarge : 100000 < amount → ¬limit < config.slippage * 2

variable {config : Config} {amount limit : Float}

theorem Config.staysWithin_iff (number : amount.isNaN = false) :
    config.StaysWithin amount limit ↔ ¬limit < Executable.slippageFor config amount := by
  unfold Executable.slippageFor
  by_cases veryLarge : 100000 < amount
  · rw [if_pos veryLarge]
    refine ⟨fun h => h.veryLarge veryLarge, fun h => ⟨fun le => ?_, fun _ le => ?_, fun _ => h⟩⟩
    · exact absurd (Number.lt_of_lt_of_le (by decide +kernel) (le_of_lt veryLarge)) (not_lt_of_le le)
    · exact absurd veryLarge (not_lt_of_le le)
  · have le := le_of_not_lt number (by decide +kernel) veryLarge
    rw [if_neg veryLarge]
    by_cases large : 10000 < amount
    · rw [if_pos large]
      exact ⟨fun h => h.large large le,
        fun h => ⟨fun le' => absurd large (not_lt_of_le le'), fun _ _ => h,
          fun lt => absurd lt veryLarge⟩⟩
    · rw [if_neg large]
      exact ⟨fun h => h.ordinary (le_of_not_lt number (by decide +kernel) large),
        fun h => ⟨fun _ => h, fun lt => absurd lt large, fun lt => absurd lt veryLarge⟩⟩

/-- The usual slippage is only ever raised. -/
theorem Config.le_slippageFor (nonneg : 0 ≤ config.slippage) :
    config.slippage ≤ Executable.slippageFor config amount := by
  unfold Executable.slippageFor
  split
  · exact le_mul_of_one_le nonneg (by decide +kernel) (by decide +kernel)
  · split
    · exact le_mul_of_one_le nonneg (by decide +kernel) (by decide +kernel)
    · exact le_self (not_isNaN_of_le nonneg).2

end Command

/-! ## What was stated -/

namespace Desk

open Review

/-- Where a slippage is stated, it is what is permitted. -/
theorem maxSlippage_of_reports {desk : Desk} {moment : Moment} {r : Request} {t : Template}
    {o : Outcome} {c : Command}
    {limit : Float} (h : o.Reports (examine desk (requested desk moment r t))) (hc : o.command = some c)
    (stated : c.parameters.primary.slippage = some limit) :
    c.parameters.tuning.maxSlippage = some limit := by
  rw [h.parameters_of_command hc, slippage_examine] at stated
  rw [h.parameters_of_command hc, tuning_examine]
  show some ((requested desk moment r t).parameters.primary.slippage.getD desk.slippage) = _
  rw [stated]
  rfl

/-- A command to swap permits the slippage that its request states. Its optimization states the same
one, but permits it only if the usual slippage stays within it for the amount, and never if the
usual slippage is above it. -/
theorem limit_kept_iff (desk : Desk) (moment : Moment) (number : Nat) (r : Request) (o : Outcome)
    (c : Command)
    (limit : Float) (ho : parse desk moment number r = .ok o) (hc : o.command = some c)
    (swap : c.intent = .swap)
    (stated : c.parameters.primary.slippage = some limit) (config : Command.Config)
    (account : Option Account)
    (x : Executable) (hx : c.executable.optimize config account = .ok x) :
    c.parameters.tuning.maxSlippage = some limit ∧ x.parameters.primary.slippage = some limit ∧
      ∃ amount permitted, amountOf? c.parameters.primary = some amount ∧
        x.parameters.tuning.maxSlippage = some permitted ∧
        (¬limit < permitted ↔ config.StaysWithin amount limit) ∧
        (0 ≤ config.slippage → limit < config.slippage → limit < permitted) := by
  rcases parse_eq_ok ho with ⟨_, clarifies, _⟩ | ⟨t, ht, reports⟩
  -- A request of unclear intent is answered with a question only.
  · rw [clarifies.command_eq] at hc
    cases hc
  have posed := posed_requested desk moment ht
  have template_eq := posed.template_eq
  rw [← reports.intent_of_command hc, swap] at template_eq
  have required := Template.mem_required template_eq
  obtain ⟨amount, read, no_nan⟩ := reports.exists_amount posed hc (required "amount" (by decide))
  have permitted := Executable.maxSlippage_of_optimize hx swap
  rw [show amountOf c.executable.parameters = amount from amountOf_eq read] at permitted
  have primary_eq := Executable.primary_of_optimize hx
  refine ⟨maxSlippage_of_reports reports hc stated, (congrArg (·.slippage) primary_eq).trans stated,
    amount, _, read, permitted, (Config.staysWithin_iff no_nan).symm, fun nonneg below => ?_⟩
  exact Number.lt_of_lt_of_le below (Config.le_slippageFor nonneg)

/-- A swap with a limit of two percent is optimized within it. -/
theorem wideLimit_kept :
    ∃ o c x permitted, parse {} ⟨0, 0⟩ 1 (swapWith ["2%"]) = .ok o ∧ o.command = some c ∧
    c.executable.optimize {} none = .ok x ∧ c.parameters.primary.slippage = some 2 ∧
    x.parameters.tuning.maxSlippage = some permitted ∧ ¬2 < permitted := by
  have swaps : (parse {} ⟨0, 0⟩ 1 (swapWith ["2%"])).toOption.any fun o => o.command.any fun c =>
      c.intent = .swap ∧ c.parameters.primary.slippage = some 2 ∧
        amountOf? c.parameters.primary = some 100 ∧
        (c.executable.optimize {} none).toOption.any fun _ => true := by
    decide +kernel
  obtain ⟨o, c, ho, hc, swaps⟩ := exists_command_of_any swaps
  obtain ⟨swap, stated, amount, optimizes⟩ := of_decide_eq_true swaps
  obtain ⟨x, hx, -⟩ := exists_eq_ok_of_any optimizes
  obtain ⟨-, -, y, permitted, read, permits, kept, -⟩ :=
    limit_kept_iff {} ⟨0, 0⟩ 1 (swapWith ["2%"]) o c 2 ho hc swap stated {} none x hx
  cases amount.symm.trans read
  exact ⟨o, c, x, permitted, ho, hc, hx, stated, permits, kept.2 ⟨by decide, by decide, by decide⟩⟩

/-- A swap with a limit of a tenth of a percent is optimized to permit half a percent. -/
theorem tightLimit_exceeded : ∃ o c x limit permitted, parse {} ⟨0, 0⟩ 1 (swapWith ["0.1%"]) = .ok o ∧
    o.command = some c ∧ c.intent = .swap ∧ c.executable.optimize {} none = .ok x ∧
    c.parameters.primary.slippage = some limit ∧ x.parameters.tuning.maxSlippage = some permitted ∧
    limit < permitted := by
  have swaps : (parse {} ⟨0, 0⟩ 1 (swapWith ["0.1%"])).toOption.any fun o => o.command.any fun c =>
      c.intent = .swap ∧ c.parameters.primary.slippage = some 0.1 ∧
        (c.executable.optimize {} none).toOption.any fun x => x.parameters.tuning.maxSlippage =
          some 0.5 := by
    decide +kernel
  obtain ⟨o, c, ho, hc, swaps⟩ := exists_command_of_any swaps
  obtain ⟨swap, stated, optimizes⟩ := of_decide_eq_true swaps
  obtain ⟨x, hx, permits⟩ := exists_eq_ok_of_any optimizes
  exact ⟨o, c, x, 0.1, 0.5, ho, hc, swap, hx, stated, of_decide_eq_true permits, by decide +kernel⟩

end Desk

end Teller
