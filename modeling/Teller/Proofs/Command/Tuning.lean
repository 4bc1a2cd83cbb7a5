import Teller.Command.Optimization
import Teller.Proofs.Success

/-!
# Tuning

Optimization changes at most four parameters of a command: its gas price, its gas limit if it takes
gas, its limit for the slippage if it is a swap, and its estimated route if it is a swap of two
stated tokens. None of them is read for it. So whatever they are, the outcome is the same, and
optimizing twice is optimizing once.

    IsExchange                   a swap of two stated tokens
    Tunes                        only what optimization may change is changed
    Retunes                      all of that is given anew, and nothing else
    Retunes.tunes                so nothing else is changed
    Retunes.revise_eq            and what it was does not matter
    optimize_eq_ok_iff           what optimization makes of a command
    retunes_of_tuned             it gives anew what it may change
    tuned_congr, routed?_congr   what it reads is nothing that it changes
    optimization                 the change, and its outcome from then on
-/

namespace Teller.Executable

open Command

/-! ## What may change -/

/-- A swap of two tokens that are stated. -/
structure IsExchange (x : Executable) : Prop where
  swaps : x.intent = .swap
  gives : (stated? x.parameters.primary.fromToken).isSome
  takes : (stated? x.parameters.primary.toToken).isSome

/-- The commands are the same, but for what an optimization may change. -/
structure Tunes (x y : Executable) : Prop where
  others_eq : y = { x with
    parameters := { x.parameters with
      tuning := { x.parameters.tuning with
        maxSlippage := y.parameters.tuning.maxSlippage
        gasLimit := y.parameters.tuning.gasLimit
        gasPrice := y.parameters.tuning.gasPrice }
      estimates := { x.parameters.estimates with route := y.parameters.estimates.route } } }
  maxSlippage_eq : x.intent ≠ .swap → y.parameters.tuning.maxSlippage = x.parameters.tuning.maxSlippage
  gasLimit_eq : x.gas.getD 0 = 0 → y.parameters.tuning.gasLimit = x.parameters.tuning.gasLimit
  route_eq : ¬ x.IsExchange → y.parameters.estimates.route = x.parameters.estimates.route

/-- A revision gives anew all that an optimization of the command may change, and nothing else. -/
structure Retunes (x : Executable) (r : Parameters.Revision) : Prop where
  others_eq : r = {
    tuning := {
      maxSlippage := r.tuning.maxSlippage, gasLimit := r.tuning.gasLimit,
      gasPrice := r.tuning.gasPrice }
    estimates := { route := r.estimates.route } }
  gasPrice_ne : r.tuning.gasPrice ≠ none
  maxSlippage_iff : r.tuning.maxSlippage = none ↔ x.intent ≠ .swap
  gasLimit_iff : r.tuning.gasLimit = none ↔ x.gas.getD 0 = 0
  route_iff : r.estimates.route = none ↔ ¬ x.IsExchange

variable {config : Config} {account : Option Account} {r : Parameters.Revision} {x y z : Executable}

/-- Nothing else is changed, and what is not given anew stays. -/
theorem Retunes.tunes (h : x.Retunes r) : x.Tunes (x.revise r) := by
  constructor
  · unfold revise
    rw [h.others_eq]
    rfl
  · intro no_swap
    show Revised.apply r.tuning.maxSlippage _ = _
    rw [h.maxSlippage_iff.2 no_swap, Revised.apply_none]
  · intro no_gas
    show Revised.apply r.tuning.gasLimit _ = _
    rw [h.gasLimit_iff.2 no_gas, Revised.apply_none]
  · intro no_exchange
    show Revised.apply r.estimates.route _ = _
    rw [h.route_iff.2 no_exchange, Revised.apply_none]

/-- What an optimization may change is either given anew or the same to begin with. -/
theorem Retunes.revise_eq (given : x.Retunes r) (h : x.Tunes y) : y.revise r = x.revise r := by
  have slippage_eq := Revised.apply_congr fun kept => h.maxSlippage_eq (given.maxSlippage_iff.1 kept)
  have limit_eq := Revised.apply_congr fun kept => h.gasLimit_eq (given.gasLimit_iff.1 kept)
  have price_eq : r.tuning.gasPrice.apply y.parameters.tuning.gasPrice =
      r.tuning.gasPrice.apply x.parameters.tuning.gasPrice :=
    Revised.apply_congr fun kept => absurd kept given.gasPrice_ne
  have route_eq := Revised.apply_congr fun kept => h.route_eq (given.route_iff.1 kept)
  unfold revise
  rw [h.others_eq]
  simp only [Parameters.revise, Tuning.revise, Estimates.revise, slippage_eq, limit_eq, price_eq,
    route_eq]

/-! ## What optimization gives -/

theorem optimize_eq_ok_iff :
    x.optimize config account = .ok y ↔ ∃ tuning, tuned config x account = .ok tuning ∧
    y = x.revise { tuning, estimates := { route := (routed? x).map some } } := by
  unfold optimize
  cases tuned config x account with
  | error fault => exact ⟨nofun, fun ⟨_, failed, _⟩ => nomatch failed⟩
  | ok tuning =>
    constructor
    · intro h
      cases h
      exact ⟨tuning, rfl, rfl⟩
    · rintro ⟨_, ⟨⟩, rfl⟩
      rfl

theorem gasLimitOf_eq_none_iff : gasLimitOf x = .ok none ↔ x.gas.getD 0 = 0 := by
  unfold gasLimitOf
  dsimp only
  by_cases no_gas : x.gas.getD 0 = 0
  · rw [if_pos no_gas]
    exact iff_of_true rfl no_gas
  · rw [if_neg no_gas]
    refine iff_of_false (fun h => ?_) no_gas
    obtain ⟨gas, -, h⟩ := bind_eq_ok h
    obtain ⟨limit, -, h⟩ := bind_eq_ok h
    cases h

theorem routed?_eq_none_iff : routed? x = none ↔ ¬ x.IsExchange := by
  unfold routed?
  dsimp only
  constructor
  · rintro h ⟨swaps, gives, takes⟩
    obtain ⟨a, ha⟩ := Option.isSome_iff_exists.1 gives
    obtain ⟨b, hb⟩ := Option.isSome_iff_exists.1 takes
    rw [swaps, ha, hb] at h
    cases h
  · intro no_exchange
    split
    · next a b swaps gives takes =>
      refine absurd ⟨swaps, ?_, ?_⟩ no_exchange
      · rw [gives]
        rfl
      · rw [takes]
        rfl
    · rfl

/-- Optimization gives anew what it may change. -/
theorem retunes_of_tuned {tuning : Tuning.Revision} (h : tuned config x account = .ok tuning) :
    x.Retunes { tuning, estimates := { route := (routed? x).map some } } := by
  obtain ⟨price, -, h⟩ := bind_eq_ok h
  obtain ⟨limit, limited, h⟩ := bind_eq_ok h
  cases h
  refine ⟨rfl, nofun, ?_, ?_, ?_⟩
  · dsimp only
    rw [ite_eq_right_iff]
    constructor
    · intro kept swaps
      cases kept swaps
    · exact fun no_swap swaps => absurd swaps no_swap
  · rw [Option.map_eq_none_iff, ← gasLimitOf_eq_none_iff, limited, Except.ok.injEq]
  · rw [Option.map_eq_none_iff, routed?_eq_none_iff]

/-! ## What optimization reads -/

theorem Tunes.intent_eq (h : x.Tunes y) : y.intent = x.intent := congrArg (·.intent) h.others_eq

theorem Tunes.confirm_eq (h : x.Tunes y) : y.confirm = x.confirm := congrArg (·.confirm) h.others_eq

theorem Tunes.gas_eq (h : x.Tunes y) : y.gas = x.gas := congrArg (·.gas) h.others_eq

theorem Tunes.primary_eq (h : x.Tunes y) : y.parameters.primary = x.parameters.primary :=
  congrArg (·.parameters.primary) h.others_eq

/-- The gas price, the gas limit and the limit for the slippage follow from nothing that
optimization changes. -/
theorem tuned_congr (h : x.Tunes y) : tuned config y account = tuned config x account := by
  unfold tuned gasPriceOf gasLimitOf amountOf
  rw [h.intent_eq, h.confirm_eq, h.gas_eq, h.primary_eq]

theorem routed?_congr (h : x.Tunes y) : routed? y = routed? x := by
  unfold routed?
  rw [h.intent_eq, h.primary_eq]

/-- What optimization makes of a command does not depend on what it may change. -/
theorem optimize_congr (optimized : x.optimize config account = .ok z) (h : x.Tunes y) :
    y.optimize config account = .ok z := by
  obtain ⟨tuning, tuned, rfl⟩ := optimize_eq_ok_iff.1 optimized
  refine optimize_eq_ok_iff.2 ⟨tuning, (tuned_congr h).trans tuned, ?_⟩
  rw [routed?_congr h, (retunes_of_tuned tuned).revise_eq h]

/-- Optimization changes no more than it may, and its outcome does not depend on what it may change.
So optimizing twice is optimizing once. -/
theorem optimization (h : x.optimize config account = .ok y) :
    x.Tunes y ∧ y.optimize config account = .ok y ∧ ∀ z, x.Tunes z →
    z.optimize config account = .ok y := by
  have tunes : x.Tunes y := by
    obtain ⟨tuning, tuned, rfl⟩ := optimize_eq_ok_iff.1 h
    exact (retunes_of_tuned tuned).tunes
  exact ⟨tunes, optimize_congr h tunes, fun z => optimize_congr h⟩

/-- A swap to be confirmed, with a gas price that is not the optimized one and with a command that
it bundles. -/
def sampleSwap : Executable where
  id := "swap"
  intent := .swap
  action := "ds_swap"
  parameters := {
    primary := { amount := some "20000", fromToken := some "SEI", toToken := some "USDC" }
    tuning := { gasPrice := some "1", recipient := some "me" } }
  metadata := { timestamp := 5 }
  status := .warning
  confirm := true
  gas := some 180000
  risk := .medium
  members := [
    { id := "repay", intent := .repay, action := "repay", parameters := {},
      metadata := { timestamp := 5 } }]

/-- The swap pays a fifth more, and may take a tenth more gas. -/
theorem sampleSwap_optimization : ∃ y, sampleSwap.optimize {} (some { gasPrice := some "100" }) = .ok y ∧
    y.parameters.tuning.gasPrice = some "120" ∧ y.parameters.tuning.gasLimit = some 198000 ∧
    y.parameters.tuning.recipient = some "me" ∧ y.members.length = 1 ∧ sampleSwap.Tunes y ∧
    y.optimize {} (some { gasPrice := some "100" }) = .ok y := by
  have optimizes : (sampleSwap.optimize {} (some { gasPrice := some "100" })).toOption.any fun y =>
      y.parameters.tuning.gasPrice = some "120" ∧ y.parameters.tuning.gasLimit = some 198000 ∧
        y.parameters.tuning.recipient = some "me" ∧ y.members.length = 1 := by
    decide +kernel
  obtain ⟨y, optimized, values⟩ := exists_eq_ok_of_any optimizes
  obtain ⟨price, limit, recipient, bundles⟩ := of_decide_eq_true values
  obtain ⟨tunes, again, -⟩ := optimization optimized
  exact ⟨y, optimized, price, limit, recipient, bundles, tunes, again⟩

end Teller.Executable
