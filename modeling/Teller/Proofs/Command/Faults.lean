import Teller.Command.Optimization
import Teller.Command.Readiness
import Teller.Proofs.Desk.Progress
import Teller.Proofs.Number.Scales

/-!
# Where the builder breaks off

Whatever is built, every fault is answered with a failure. Looking at a command that was built never
breaks off either: its gas has been cut from a double, so it is no greater than all of them. But the
gas of a batch, or of a command from elsewhere, may be beyond all doubles, and then it cannot be
compared with a balance. Optimization guards none of its conversions. It breaks off exactly if the
gas price that the account knows is no number, or if the price or the gas is not finite when it is
raised; the gas of what was built for the template of its intent always is.

    exists_wholeOf_iff           what can be cut to a whole number
    natAbs_lt_of_wholeOf         what was cut is not beyond all doubles
    obstacles_of_build           what was built can be looked at
    obstacles_eq_error_iff       what cannot be looked at
    IsOptimizable                prices and gas that are finite when they are raised
    exists_optimize_iff          what can be optimized
    isFinite_raisedGas           the gas of what is built for a template
    builder_returns_iff          where each operation returns
    lendUnpriced_breaks_off      a command that cannot be optimized
-/

namespace Teller

/-! ## Conversions -/

namespace Number

variable {x : Float} {n : Int}

/-- The finite doubles are those that can be cut to a whole number. -/
theorem exists_wholeOf_iff : (∃ n, wholeOf x = .ok n) ↔ x.isFinite = true := by
  show _ ↔ x.toModel.unpack.isFinite = true
  unfold wholeOf
  rw [ofFloat_eq_ofUnpacked]
  cases x.toModel.unpack with
  | notANumber => exact iff_of_false (fun ⟨_, h⟩ => nomatch h) nofun
  | infinity s => exact iff_of_false (fun ⟨_, h⟩ => nomatch h) nofun
  | zero s => exact iff_of_true ⟨_, rfl⟩ rfl
  | finite s m e pos => exact iff_of_true ⟨_, rfl⟩ rfl

/-- The part before the point is no greater than the greatest mantissa at the greatest exponent. -/
theorem whole_le {m k : Nat} {e : Int} (h : IsNormalized m e) (few : e ≤ k) :
    (Binary.size m e).num / (Binary.size m e).den ≤ (2 ^ 53 - 1) * 2 ^ k := by
  have small : m ≤ 2 ^ 53 - 1 := Nat.le_sub_one_of_lt h.small
  cases e with
  | ofNat j =>
    show m * 2 ^ j / 1 ≤ _
    rw [Nat.div_one]
    exact Nat.mul_le_mul small (Nat.pow_le_pow_right (by decide) (Int.ofNat_le.1 few))
  | negSucc j =>
    calc m / 2 ^ (j + 1) ≤ m := Nat.div_le_self ..
      _ ≤ 2 ^ 53 - 1 := small
      _ ≤ (2 ^ 53 - 1) * 2 ^ k := Nat.le_mul_of_pos_right _ (Nat.two_pow_pos k)

theorem natAbs_signed (negative : Bool) (n : Nat) : (signed negative n).natAbs = n := by
  unfold signed
  split <;> omega

/-- What was cut to a whole number is not beyond all doubles. -/
theorem natAbs_lt_of_wholeOf (h : wholeOf x = .ok n) : n.natAbs < wholeBound := by
  unfold wholeOf at h
  split at h
  · next fields =>
    cases h
    have canonical := isCanonical_of_ofBits fields
    rw [natAbs_signed]
    exact Nat.lt_of_le_of_lt (whole_le canonical.toIsNormalized canonical.greatest) (by decide +kernel)
  · cases h
  · cases h

theorem exists_realOf_iff : (∃ y, realOf n = .ok y) ↔ n.natAbs < wholeBound := by
  constructor
  · rintro ⟨y, h⟩
    by_contra large
    rw [realOf_eq_error_iff.2 ⟨rfl, Nat.not_lt.1 large⟩] at h
    cases h
  · exact fun small => ⟨_, realOf_eq_ok n small⟩

end Number

namespace Command

variable {config : Config} {time : Int} {number : Nat} {order : Order} {account : Option Account}
    {c : Command}

/-! ## Building -/

theorem build_returns (config : Config) (time : Int) (number : Nat) (order : Order) :
    (∃ c, build config time number order = .ok c) ∨
      ∃ f, build config time number order = .error f ∧ f.code = .commandBuildError := by
  cases built : build config time number order with
  | ok c => exact .inl ⟨c, rfl⟩
  | error f =>
    obtain ⟨fault, -, rfl⟩ := build_eq_error_iff.1 built
    exact .inr ⟨_, rfl, rfl⟩

theorem batch_returns (config : Config) (time : Int) (number : Nat) (orders : List Order) :
    (∃ b, Batch.build config time number orders = .ok b) ∨
      ∃ f, Batch.build config time number orders = .error f ∧
        (f.code = .emptyBatch ∨ f.code = .commandBuildError) := by
  unfold Batch.build
  dsimp only
  split
  · exact .inr ⟨_, rfl, .inl rfl⟩
  · split
    · exact .inl ⟨_, rfl⟩
    · exact .inr ⟨_, rfl, .inr rfl⟩

/-- The gas of a command has been cut to a whole number last of all. -/
theorem natAbs_gas_lt (h : build config time number order = .ok c) :
    c.gas.natAbs < Number.wholeBound := by
  obtain ⟨gas, cut, rfl⟩ := build_eq_ok_iff.1 h
  obtain ⟨start, -, cut⟩ := bind_eq_ok cut
  obtain ⟨base, -, cut⟩ := bind_eq_ok cut
  obtain ⟨real, -, cut⟩ := bind_eq_ok cut
  exact Number.natAbs_lt_of_wholeOf cut

/-! ## Looking at a command -/

/-- A command that was built can be looked at. -/
theorem obstacles_of_build (h : build config time number order = .ok c) (account : Option Account) :
    c.executable.obstacles account = .ok (c.obstacles account) :=
  obstacles_executable c account (natAbs_gas_lt h)

end Command

namespace Executable

open Command Number

variable {config : Config} {account : Option Account} {x : Executable} {fault : Fault}

/-- A command cannot be looked at if its gas is to be compared and is beyond all doubles. -/
theorem obstacles_eq_error_iff : x.obstacles account = .error fault ↔
    fault = .tooLarge ∧ (gasBalance? account).isSome ∧ wholeBound ≤ (x.gas.getD 0).natAbs := by
  -- Only the conversion of the gas can fail.
  have same : x.obstacles account = .error fault ↔ x.comparedGas account = .error fault := by
    unfold obstacles
    cases x.comparedGas account with
    | error other => constructor <;> exact fun h => congrArg Except.error (Except.error.inj h)
    | ok gas => exact iff_of_false nofun nofun
  rw [same]
  unfold comparedGas
  by_cases known : (gasBalance? account).isSome = true
  · rw [if_pos known, realOf_eq_error_iff]
    simp only [known, true_and]
  · rw [if_neg known]
    exact iff_of_false nofun fun h => known h.2.1

/-! ## Optimization -/

/-- The gas price to start from is a number that is finite when it is raised, and so is the gas, if
there is any. -/
structure IsOptimizable (x : Executable) (account : Option Account) : Prop where
  price : ∃ price, read? (startingGasPrice account) = some price ∧
    (price * if x.confirm then 1.2 else 1).isFinite = true
  limit : x.gas.getD 0 ≠ 0 →
    (x.gas.getD 0).natAbs < wholeBound ∧ (Float.ofInt (x.gas.getD 0) * 1.1).isFinite = true

theorem exists_gasPriceOf_iff : (∃ n, gasPriceOf x account = .ok n) ↔
    ∃ price, read? (startingGasPrice account) = some price ∧
      (price * if x.confirm then 1.2 else 1).isFinite = true := by
  unfold gasPriceOf ofText
  cases read? (startingGasPrice account) with
  | none => exact iff_of_false (fun ⟨_, h⟩ => nomatch h) fun ⟨_, h, _⟩ => nomatch h
  | some price =>
    refine exists_wholeOf_iff.trans ⟨fun finite => ⟨price, rfl, finite⟩, ?_⟩
    rintro ⟨_, ⟨⟩, finite⟩
    exact finite

theorem exists_gasLimitOf_iff : (∃ limit, gasLimitOf x = .ok limit) ↔ (x.gas.getD 0 ≠ 0 →
    (x.gas.getD 0).natAbs < wholeBound ∧ (Float.ofInt (x.gas.getD 0) * 1.1).isFinite = true) := by
  unfold gasLimitOf
  dsimp only
  by_cases no_gas : x.gas.getD 0 = 0
  · rw [if_pos no_gas]
    exact iff_of_true ⟨none, rfl⟩ fun some_gas => absurd no_gas some_gas
  · rw [if_neg no_gas]
    constructor
    · rintro ⟨_, h⟩ -
      obtain ⟨gas, converted, h⟩ := bind_eq_ok h
      obtain ⟨limit, cut, -⟩ := bind_eq_ok h
      have small := exists_realOf_iff.1 ⟨gas, converted⟩
      cases converted.symm.trans (realOf_eq_ok _ small)
      exact ⟨small, exists_wholeOf_iff.1 ⟨limit, cut⟩⟩
    · intro h
      obtain ⟨small, finite⟩ := h no_gas
      obtain ⟨limit, cut⟩ := exists_wholeOf_iff.2 finite
      refine ⟨some limit, ?_⟩
      rw [realOf_eq_ok _ small, ok_bind, cut]
      rfl

/-- What can be optimized. -/
theorem exists_optimize_iff : (∃ y, x.optimize config account = .ok y) ↔ x.IsOptimizable account := by
  constructor
  · rintro ⟨y, h⟩
    obtain ⟨tuning, h, -⟩ := bind_eq_ok h
    obtain ⟨price, priced, h⟩ := bind_eq_ok h
    obtain ⟨limit, limited, -⟩ := bind_eq_ok h
    exact ⟨exists_gasPriceOf_iff.1 ⟨price, priced⟩, exists_gasLimitOf_iff.1 ⟨limit, limited⟩⟩
  · rintro ⟨price, limit⟩
    obtain ⟨price, priced⟩ := exists_gasPriceOf_iff.2 price
    obtain ⟨limit, limited⟩ := exists_gasLimitOf_iff.2 limit
    unfold optimize tuned
    rw [priced, ok_bind, limited]
    exact ⟨_, rfl⟩

end Executable

namespace Command

/-- The gas of what is built for a template stays finite when it is raised. -/
theorem isFinite_raisedGas {t : Template} (ht : t ∈ Template.all) {p : Parameters} {gas : Int}
    (h : gasOf t.intent p (some t) = .ok gas) : (Float.ofInt gas * 1.1).isFinite = true := by
  have finite :=
    adjustedGas_cases (fun gas => gas.toOption.all fun gas => (Float.ofInt gas * 1.1).isFinite)
    (by decide +kernel) ht (isMultiHop p) (isLevered p) (venue? p)
  rw [← gasOf_eq, h] at finite
  exact finite

/-- A command that was built for the template of its intent can be optimized exactly if the gas
price is a number that is finite when it is raised. -/
theorem exists_optimize_iff_of_build {config : Config} {time : Int} {number : Nat} {order : Order}
    {c : Command}
    {t : Template} (ht : Template.of? order.intent = some t) (own : order.template = some t)
    (built : build config time number order = .ok c) (account : Option Account) :
    (∃ y, c.executable.optimize config account = .ok y) ↔
      ∃ price, Number.read? (Executable.startingGasPrice account) = some price ∧
        (price * if c.confirm then 1.2 else 1).isFinite = true := by
  refine Executable.exists_optimize_iff.trans ⟨fun h => h.price, fun price => ⟨price, fun _ => ?_⟩⟩
  refine ⟨natAbs_gas_lt built, ?_⟩
  obtain ⟨gas, cut, rfl⟩ := build_eq_ok_iff.1 built
  obtain ⟨known, same⟩ := Template.of?_eq_some ht
  rw [own, ← same] at cut
  exact isFinite_raisedGas known cut

/-- Where the operations of the builder return. Building returns a command, a batch or a failure.
Everything that was built alone can be looked at; otherwise this breaks off exactly if the gas is to
be compared and is beyond all doubles. Optimization returns exactly for what can be optimized, and
for what was built for the template of its intent exactly if the gas price is a number that is
finite when it is raised. -/
theorem builder_returns_iff (config : Config) (account : Option Account) :
    (∀ time number order, (∃ c, build config time number order = .ok c) ∨
      ∃ f, build config time number order = .error f ∧ f.code = .commandBuildError) ∧
    (∀ time number orders, (∃ b, Batch.build config time number orders = .ok b) ∨
      ∃ f, Batch.build config time number orders = .error f ∧
        (f.code = .emptyBatch ∨ f.code = .commandBuildError)) ∧
    (∀ time number order c, build config time number order = .ok c →
      c.executable.obstacles account = .ok (c.obstacles account) ∧
      ∀ t, Template.of? order.intent = some t → order.template = some t →
        ((∃ y, c.executable.optimize config account = .ok y) ↔
          ∃ price, Number.read? (Executable.startingGasPrice account) = some price ∧
            (price * if c.confirm then 1.2 else 1).isFinite = true)) ∧
    ∀ x : Executable,
      (∀ fault, x.obstacles account = .error fault ↔ fault = .tooLarge ∧ (gasBalance? account).isSome ∧
        Number.wholeBound ≤ (x.gas.getD 0).natAbs) ∧
      ((∃ y, x.optimize config account = .ok y) ↔ x.IsOptimizable account) :=
  ⟨build_returns config, batch_returns config,
    fun _ _ _ _ built => ⟨obstacles_of_build built account,
      fun _ ht own => exists_optimize_iff_of_build ht own built account⟩,
    fun _ => ⟨fun _ => Executable.obstacles_eq_error_iff, Executable.exists_optimize_iff⟩⟩

def lendAtSilo : Order where
  intent := .lend
  parameters := { primary := { amount := some "100", token := some "USDC", protocol := some "silo" } }
  template := Template.of? .lend

/-- The command to lend is optimized for a gas price that is a number. -/
theorem lendPriced_optimized : ∃ c y, build {} 0 1 lendAtSilo = .ok c ∧
    c.executable.optimize {} (some { gasPrice := some "1000" }) = .ok y := by
  have unconfirmed : (build {} 0 1 lendAtSilo).toOption.any fun c => c.confirm = false := by
    decide +kernel
  obtain ⟨c, built, unconfirmed⟩ := exists_eq_ok_of_any unconfirmed
  obtain ⟨t, ht⟩ := Option.isSome_iff_exists.1 (show (Template.of? lendAtSilo.intent).isSome by decide)
  have returns := (builder_returns_iff {} (some { gasPrice := some "1000" })).2.2.1 0 1 lendAtSilo c built
  obtain ⟨y, optimized⟩ := (returns.2 t ht ht).2 ⟨1000, by decide +kernel, by
    rw [of_decide_eq_true unconfirmed]
    decide +kernel⟩
  exact ⟨c, y, built, optimized⟩

/-- For a gas price in words it is not. -/
theorem lendUnpriced_breaks_off : ∃ c, build {} 0 1 lendAtSilo = .ok c ∧
    c.executable.optimize {} (some { gasPrice := some "abc" }) = .error (.noNumber "abc") := by
  have breaks_off : (build {} 0 1 lendAtSilo).toOption.any fun c =>
      (error? (c.executable.optimize {} (some { gasPrice := some "abc" }))).any
        (· = .noNumber "abc") := by
    decide +kernel
  obtain ⟨c, built, breaks_off⟩ := exists_eq_ok_of_any breaks_off
  obtain ⟨fault, broken, same⟩ := exists_eq_error_of_any breaks_off
  rw [of_decide_eq_true same] at broken
  exact ⟨c, built, broken⟩

end Command
end Teller
