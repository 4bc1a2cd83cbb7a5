import Teller.Proofs.Command.Batches
import Teller.Proofs.Command.Points

/-!
# Higher stakes

A larger amount and a higher leverage never make a command less risky, and what was to be confirmed
is still to be confirmed, if the leverage from which it is has to be one at least: no leverage
counts as one, and so does a leverage of zero. Whatever is of high risk is to be confirmed, a batch
as well as a command.

    Parameters.RaisedTo          a larger amount and a higher leverage
    any_leverage_iff             when a leverage is above a bound
    rank_riskOf_le_of_raised     the risk
    needsConfirmation_of_raised  the confirmation
    confirm_of_high              a command of high risk
    high_batch_iff, confirm_of_high_batch
                                 a batch of high risk
    stakes                       commands and batches that are built
-/

namespace Teller

open Number Command

/-- The same parameters, but for an amount and a leverage that are no smaller numbers. An amount
that names no number counts as zero, and no leverage as one. -/
structure Parameters.RaisedTo (p q : Parameters) : Prop where
  amount_le : amountOf p ≤ amountOf q
  leverage_le : p.primary.leverage.getD 1 ≤ q.primary.leverage.getD 1
  others_eq : q = { p with
    primary := { p.primary with amount := q.primary.amount, leverage := q.primary.leverage } }

namespace Command

variable {config : Config} {intent : Intent} {template : Option Template} {p q : Parameters}
    {bound : Float} {time time' : Int} {number number' : Nat} {order : Order} {c d : Command}

/-! ## Risk -/

/-- More is at stake, so the risk is no lower. -/
theorem rank_riskOf_le_of_raised (h : p.RaisedTo q) (intent : Intent) :
    (riskOf intent p).rank ≤ (riskOf intent q).rank := by
  have protocol_eq : p.primary.protocol = q.primary.protocol :=
    (congrArg (·.primary.protocol) h.others_eq).symm
  have estimates_eq : p.estimates = q.estimates := (congrArg (·.estimates) h.others_eq).symm
  refine rank_riskOf_le protocol_eq (points_le protocol_eq ?_ ?_ ?_)
  · rw [estimates_eq]
  · exact fun bound _ above => lt_of_lt_of_le above h.amount_le
  · intro bound counts above
    rw [lt_leverage_iff counts] at above ⊢
    exact lt_of_lt_of_le above h.leverage_le

/-! ## Confirmation -/

/-- A leverage is above a bound of one or more if it is there or counts as one. -/
theorem any_leverage_iff (counts : 1 ≤ bound) :
    (leverage? p).any (bound < ·) = true ↔ bound < p.primary.leverage.getD 1 := by
  rw [← lt_leverage_iff counts]
  cases leverage? p with
  | none => exact ⟨nofun, fun above => absurd above (not_lt_of_le counts)⟩
  | some x => exact decide_eq_true_iff

theorem needsConfirmation_iff {risk : Risk} (counts : 1 ≤ config.confirmLeverage) :
    needsConfirmation config intent p risk = true ↔ risk = .high ∨ config.confirmAmount < amountOf p ∨
      config.confirmLeverage < p.primary.leverage.getD 1 ∨ isConfirmed intent = true := by
  rw [← any_leverage_iff counts]
  simp only [needsConfirmation, Bool.or_eq_true, beq_iff_eq, decide_eq_true_iff, or_assoc]

theorem eq_high_of_le {a b : Risk} (high : a = .high) (le : a.rank ≤ b.rank) : b = .high := by
  subst high
  cases b
  · exact absurd le (by decide)
  · exact absurd le (by decide)
  · rfl

/-- More is at stake, so what was to be confirmed still is. -/
theorem needsConfirmation_of_raised (counts : 1 ≤ config.confirmLeverage) (h : p.RaisedTo q)
    (needed : needsConfirmation config intent p (riskOf intent p) = true) :
    needsConfirmation config intent q (riskOf intent q) = true := by
  rw [needsConfirmation_iff counts] at needed ⊢
  rcases needed with high | large | levered | always
  · exact .inl (eq_high_of_le high (rank_riskOf_le_of_raised h intent))
  · exact .inr (.inl (lt_of_lt_of_le large h.amount_le))
  · exact .inr (.inr (.inl (lt_of_lt_of_le levered h.leverage_le)))
  · exact .inr (.inr (.inr always))

theorem confirm_of_high (built : build config time number order = .ok c) (high : c.risk = .high) :
    c.confirm = true := by
  obtain ⟨gas, -, rfl⟩ := build_eq_ok_iff.1 built
  replace high : riskOf order.intent order.parameters = .high := high
  show needsConfirmation config order.intent order.parameters
    (riskOf order.intent order.parameters) = true
  rw [high]
  rfl

section Batches

variable {orders : List Order} {b : Batch}

theorem sumsUp_members (built : Batch.build config time number orders = .ok b) :
    b.executable.SumsUp b.members := by
  obtain ⟨some_orders, members⟩ := Batch.forall₂_of_build built
  exact Batch.sumsUp (Batch.commands_ne_nil some_orders members) rfl

/-- A batch that is handed out is of high risk exactly if one of its orders is. -/
theorem high_batch_iff (built : Batch.build config time number orders = .ok b) :
    b.executable.risk = .high ↔ ∃ order ∈ orders, ∃ c, IsBuilt config time order c ∧ c.risk = .high := by
  have members := (Batch.forall₂_of_build built).2
  have sums := sumsUp_members built
  constructor
  · intro high
    obtain ⟨c, hc, risk⟩ := sums.risk_mem
    obtain ⟨order, listed, made⟩ := Batch.exists_order_of_mem members hc
    exact ⟨order, listed, c, made, risk.trans high⟩
  · rintro ⟨order, listed, c, made, high⟩
    obtain ⟨d, hd, made'⟩ := Batch.exists_command_of_mem members listed
    have same := (Batch.build_renumbered (n := d.number) made).symm.trans made'
    have high' : d.risk = .high := by
      rw [← Except.ok.inj same]
      exact high
    exact eq_high_of_le high' (sums.risk_le d hd)

/-- A batch of high risk has a member of high risk, and this one is to be confirmed. -/
theorem confirm_of_high_batch (built : Batch.build config time number orders = .ok b)
    (high : b.executable.risk = .high) : b.executable.confirm = true := by
  have members := (Batch.forall₂_of_build built).2
  have sums := sumsUp_members built
  obtain ⟨c, hc, risk⟩ := sums.risk_mem
  obtain ⟨order, -, made⟩ := Batch.exists_order_of_mem members hc
  exact sums.confirm_iff.2 ⟨c, hc, confirm_of_high made (risk.trans high)⟩

end Batches

/-! ## Commands that are built -/

theorem rank_le_of_raised (h : p.RaisedTo q)
    (built : build config time number ⟨intent, p, template⟩ = .ok c)
    (built' : build config time' number' ⟨intent, q, template⟩ = .ok d) : c.risk.rank ≤ d.risk.rank := by
  obtain ⟨gas, -, rfl⟩ := build_eq_ok_iff.1 built
  obtain ⟨gas', -, rfl⟩ := build_eq_ok_iff.1 built'
  exact rank_riskOf_le_of_raised h intent

theorem confirm_of_raised (counts : 1 ≤ config.confirmLeverage) (h : p.RaisedTo q)
    (built : build config time number ⟨intent, p, template⟩ = .ok c)
    (built' : build config time' number' ⟨intent, q, template⟩ = .ok d) (needed : c.confirm = true) :
    d.confirm = true := by
  obtain ⟨gas, -, rfl⟩ := build_eq_ok_iff.1 built
  obtain ⟨gas', -, rfl⟩ := build_eq_ok_iff.1 built'
  exact needsConfirmation_of_raised counts h needed

/-- With more at stake the risk is no lower and the confirmation is kept, and high risk is always to
be confirmed, that of a batch as well, which is of high risk if one of its orders is. -/
theorem stakes (config : Config) :
    (∀ intent template p q time time' number number' c d, p.RaisedTo q →
      build config time number ⟨intent, p, template⟩ = .ok c →
      build config time' number' ⟨intent, q, template⟩ = .ok d →
      c.risk.rank ≤ d.risk.rank ∧ (1 ≤ config.confirmLeverage → c.confirm = true → d.confirm = true)) ∧
    (∀ order time number c, build config time number order = .ok c → c.risk = .high → c.confirm = true) ∧
    (∀ orders time number b, Batch.build config time number orders = .ok b →
      (b.executable.risk = .high ↔ ∃ order ∈ orders, ∃ c, IsBuilt config time order c ∧ c.risk = .high) ∧
      (b.executable.risk = .high → b.executable.confirm = true)) := by
  refine ⟨?_, ?_, ?_⟩
  · intro intent template p q time time' number number' c d h built built'
    exact ⟨rank_le_of_raised h built built', fun counts => confirm_of_raised counts h built built'⟩
  · intro order time number c built
    exact confirm_of_high built
  · intro orders time number b built
    exact ⟨high_batch_iff built, confirm_of_high_batch built⟩

/-- A loan to be confirmed for its amount. -/
def sampleLoan : Parameters where
  primary := { amount := some "12000", token := some "USDC" }

/-- A larger one with leverage. -/
def leveragedLoan : Parameters where
  primary := { amount := some "250000", token := some "USDC", leverage := some 3 }

/-- A position of high risk. -/
def samplePosition : Order where
  intent := .openPosition
  parameters := { primary := { amount := some "100", token := some "SEI", leverage := some 10 } }

/-- The larger loan is of medium risk and still to be confirmed, and so is a batch with the
position. -/
theorem leveragedLoan_stakes : sampleLoan.RaisedTo leveragedLoan ∧
    (∃ c d, build {} 0 1 ⟨.lend, sampleLoan, none⟩ = .ok c ∧
      build {} 5 2 ⟨.lend, leveragedLoan, none⟩ = .ok d ∧
      c.risk = .low ∧ d.risk = .medium ∧ c.risk.rank ≤ d.risk.rank ∧ c.confirm = true ∧
        d.confirm = true) ∧
    (∃ c, build {} 0 1 samplePosition = .ok c ∧ c.risk = .high ∧ c.confirm = true) ∧
    ∃ b, Batch.build {} 0 1 [⟨.lend, sampleLoan, none⟩, samplePosition] = .ok b ∧
    b.executable.risk = .high ∧ b.executable.confirm = true := by
  have raised : sampleLoan.RaisedTo leveragedLoan := ⟨by decide +kernel, by decide +kernel, rfl⟩
  obtain ⟨more, high, high_batch⟩ := stakes {}
  have loan : (build {} 0 1 ⟨.lend, sampleLoan, none⟩).toOption.any
      fun c => c.risk = .low ∧ c.confirm := by
    decide +kernel
  have larger : (build {} 5 2 ⟨.lend, leveragedLoan, none⟩).toOption.any fun d => d.risk = .medium := by
    decide +kernel
  have position : (build {} 0 1 samplePosition).toOption.any fun c => c.risk = .high := by
    decide +kernel
  have both : (Batch.build {} 0 1 [⟨.lend, sampleLoan, none⟩, samplePosition]).toOption.any fun b =>
      b.executable.risk = .high := by
    decide +kernel
  obtain ⟨c, hc, amounts⟩ := exists_eq_ok_of_any loan
  obtain ⟨low, confirmed⟩ := of_decide_eq_true amounts
  obtain ⟨d, hd, medium⟩ := exists_eq_ok_of_any larger
  obtain ⟨e, he, risky⟩ := exists_eq_ok_of_any position
  obtain ⟨b, hb, risky_batch⟩ := exists_eq_ok_of_any both
  have keeps := more _ _ _ _ _ _ _ _ c d raised hc hd
  have confirmed' := keeps.2 (by decide +kernel) confirmed
  replace risky := of_decide_eq_true risky
  replace risky_batch := of_decide_eq_true risky_batch
  exact ⟨raised, ⟨c, d, hc, hd, low, of_decide_eq_true medium, keeps.1, confirmed, confirmed'⟩,
    ⟨e, he, risky, high _ _ _ _ he risky⟩, b, hb, risky_batch, (high_batch _ _ _ _ hb).2 risky_batch⟩

end Command

end Teller
