import Teller.Parameters

/-!
# Revisions, field by field

Parameters are known by their fields, and a revision sets some of these. What a revision does to one
field has nothing to do with the others: a field that is set takes the new value, and any other
keeps its own. The laws of revisions follow from this alone.

    Parameters.ext_value         parameters are known by their fields
    value_revise                 what a revision does to a field
    revise_of_sets_nothing       a revision that sets nothing changes nothing
    revise_comm                  revisions of different fields commute
    value_revise_of_sets         the last revision that sets a field wins
-/

namespace Teller

namespace Parameters

/-- The fields of the three sections, by the type of their values. -/
inductive Field : Type → Type where
  | amount : Field String
  | token : Field String
  | fromToken : Field String
  | toToken : Field String
  | protocol : Field String
  | leverage : Field Float
  | slippage : Field Float
  | deadline : Field Int
  | maxSlippage : Field Float
  | minOutput : Field String
  | gasLimit : Field Int
  | gasPrice : Field String
  | recipient : Field String
  | referrer : Field String
  | tuningRoute : Field (List String)
  | riskAcknowledged : Field Bool
  | outputAmount : Field String
  | priceImpact : Field Float
  | fees : Field (List Fee)
  | route : Field (List Hop)
  | healthFactorAfter : Field Float
  | liquidationPrice : Field String
  | totalCost : Field String

namespace Field

def value : Field α → Parameters → Option α
  | amount, p => p.primary.amount
  | token, p => p.primary.token
  | fromToken, p => p.primary.fromToken
  | toToken, p => p.primary.toToken
  | protocol, p => p.primary.protocol
  | leverage, p => p.primary.leverage
  | slippage, p => p.primary.slippage
  | deadline, p => p.primary.deadline
  | maxSlippage, p => p.tuning.maxSlippage
  | minOutput, p => p.tuning.minOutput
  | gasLimit, p => p.tuning.gasLimit
  | gasPrice, p => p.tuning.gasPrice
  | recipient, p => p.tuning.recipient
  | referrer, p => p.tuning.referrer
  | tuningRoute, p => p.tuning.route
  | riskAcknowledged, p => p.tuning.riskAcknowledged
  | outputAmount, p => p.estimates.outputAmount
  | priceImpact, p => p.estimates.priceImpact
  | fees, p => p.estimates.fees
  | route, p => p.estimates.route
  | healthFactorAfter, p => p.estimates.healthFactorAfter
  | liquidationPrice, p => p.estimates.liquidationPrice
  | totalCost, p => p.estimates.totalCost

/-- The new value that a revision gives a field, if it does. -/
def revised : Field α → Revision → Revised α
  | amount, r => r.primary.amount
  | token, r => r.primary.token
  | fromToken, r => r.primary.fromToken
  | toToken, r => r.primary.toToken
  | protocol, r => r.primary.protocol
  | leverage, r => r.primary.leverage
  | slippage, r => r.primary.slippage
  | deadline, r => r.primary.deadline
  | maxSlippage, r => r.tuning.maxSlippage
  | minOutput, r => r.tuning.minOutput
  | gasLimit, r => r.tuning.gasLimit
  | gasPrice, r => r.tuning.gasPrice
  | recipient, r => r.tuning.recipient
  | referrer, r => r.tuning.referrer
  | tuningRoute, r => r.tuning.route
  | riskAcknowledged, r => r.tuning.riskAcknowledged
  | outputAmount, r => r.estimates.outputAmount
  | priceImpact, r => r.estimates.priceImpact
  | fees, r => r.estimates.fees
  | route, r => r.estimates.route
  | healthFactorAfter, r => r.estimates.healthFactorAfter
  | liquidationPrice, r => r.estimates.liquidationPrice
  | totalCost, r => r.estimates.totalCost

end Field

/-- A revision gives a field anew, be it without a value. -/
def Revision.Sets (r : Revision) (f : Field α) : Prop := (f.revised r).isSome

instance (r : Revision) (f : Field α) : Decidable (r.Sets f) :=
  inferInstanceAs (Decidable ((f.revised r).isSome = true))

end Parameters

/-! ## Revisions of everything -/

/-- A revision that gives every field of the first section as it is. -/
def Primary.restated (p : Primary) : Primary.Revision where
  amount := some p.amount
  token := some p.token
  fromToken := some p.fromToken
  toToken := some p.toToken
  protocol := some p.protocol
  leverage := some p.leverage
  slippage := some p.slippage
  deadline := some p.deadline

def Tuning.restated (t : Tuning) : Tuning.Revision where
  maxSlippage := some t.maxSlippage
  minOutput := some t.minOutput
  gasLimit := some t.gasLimit
  gasPrice := some t.gasPrice
  recipient := some t.recipient
  referrer := some t.referrer
  route := some t.route
  riskAcknowledged := some t.riskAcknowledged

def Estimates.restated (e : Estimates) : Estimates.Revision where
  outputAmount := some e.outputAmount
  priceImpact := some e.priceImpact
  fees := some e.fees
  route := some e.route
  healthFactorAfter := some e.healthFactorAfter
  liquidationPrice := some e.liquidationPrice
  totalCost := some e.totalCost

namespace Parameters

/-- A revision that gives every field as it is. -/
def restated (p : Parameters) : Revision where
  primary := p.primary.restated
  tuning := p.tuning.restated
  estimates := p.estimates.restated

/-! ## Fields -/

/-- Parameters are known by their fields. -/
theorem ext_value {p q : Parameters} (same : ∀ (α : Type) (f : Field α), f.value p = f.value q) :
    p = q := by
  rcases p with ⟨⟨⟩, ⟨⟩, ⟨⟩⟩
  rcases q with ⟨⟨⟩, ⟨⟩, ⟨⟩⟩
  simp only [mk.injEq, Primary.mk.injEq, Tuning.mk.injEq, Estimates.mk.injEq]
  exact ⟨⟨same _ .amount, same _ .token, same _ .fromToken, same _ .toToken, same _ .protocol,
    same _ .leverage, same _ .slippage, same _ .deadline⟩,
    ⟨same _ .maxSlippage, same _ .minOutput, same _ .gasLimit, same _ .gasPrice, same _ .recipient,
      same _ .referrer, same _ .tuningRoute, same _ .riskAcknowledged⟩,
    ⟨same _ .outputAmount, same _ .priceImpact, same _ .fees, same _ .route, same _ .healthFactorAfter,
      same _ .liquidationPrice, same _ .totalCost⟩⟩

variable {α : Type} {f : Field α} {p : Parameters} {a b r : Revision}

/-- What a revision does to a field. -/
theorem value_revise (f : Field α) (p : Parameters) (r : Revision) :
    f.value (p.revise r) = (f.revised r).apply (f.value p) := by
  cases f <;> rfl

theorem revised_restated (f : Field α) (p : Parameters) : f.revised p.restated = some (f.value p) := by
  cases f <;> rfl

theorem sets_restated (f : Field α) (p : Parameters) : p.restated.Sets f := by
  unfold Revision.Sets
  rw [revised_restated]
  rfl

/-- What is restated is what it was. -/
theorem parameters_restated (p : Parameters) : p.restated.parameters = p := rfl

theorem Revision.not_sets_iff : ¬r.Sets f ↔ f.revised r = none := by
  unfold Sets
  rw [Option.not_isSome_iff_eq_none]

theorem value_revise_of_not_sets (h : ¬r.Sets f) : f.value (p.revise r) = f.value p := by
  rw [value_revise, Revision.not_sets_iff.1 h, Revised.apply_none]

/-- A field that is set takes its new value from any parameters. -/
theorem value_revise_of_sets (h : r.Sets f) : f.value (p.revise r) = f.value r.parameters := by
  obtain ⟨new, given⟩ := Option.isSome_iff_exists.1 h
  rw [Revision.parameters, value_revise, value_revise, given, Revised.apply_some, Revised.apply_some]

/-! ## Laws -/

/-- A revision that sets nothing changes nothing. -/
theorem revise_of_sets_nothing (h : ∀ (α : Type) (f : Field α), ¬r.Sets f) : p.revise r = p :=
  ext_value fun α f => value_revise_of_not_sets (h α f)

/-- Revisions of different fields commute. -/
theorem revise_comm (different : ∀ (α : Type) (f : Field α), ¬(a.Sets f ∧ b.Sets f)) :
    (p.revise a).revise b = (p.revise b).revise a := by
  -- At most one of the two sets the field; the other leaves it to it.
  refine ext_value fun α f => ?_
  by_cases by_a : a.Sets f
  · have not_by_b : ¬b.Sets f := fun by_b => different α f ⟨by_a, by_b⟩
    rw [value_revise_of_not_sets not_by_b, value_revise_of_sets by_a, value_revise_of_sets by_a]
  · rw [value_revise_of_not_sets by_a, value_revise, value_revise_of_not_sets by_a, value_revise]

end Parameters

end Teller
