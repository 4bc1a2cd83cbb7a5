import Teller.Risk.Assessment

/-!
# Compatibility with a profile

Whether an operation suits a user: its risk against the tolerance, its size against the capacity,
its complexity against the experience.

    compatible_eq_isEmpty_warnings       an operation suits if there is nothing to warn of
-/

namespace Teller.Risk

structure Compatibility where
  compatible : Bool
  warnings : List String := []
  suggestions : List String := []
  deriving DecidableEq, Repr

/-- Operations for users with experience. -/
def complexOperations : List String := ["arbitrage", "leveraged_farming", "options", "perpetuals"]

/-- The risk of the operation is within the tolerance. -/
def toleratedBy (profile : Profile) (overall : Level) : Bool := overall.rank ≤ profile.tolerance.rank

/-- The operation takes no more of the portfolio than the profile allows. -/
def affordableBy (profile : Profile) (op : Operation) : Bool :=
  let portfolio := op.portfolioValue.getD 0
  portfolio == 0 || op.amount / portfolio ≤ profile.capacity

/-- The operation is simple, or the user experienced. -/
def manageableBy (profile : Profile) (op : Operation) : Bool :=
  !complexOperations.contains (Text.lower op.operation) ||
    profile.experience == .advanced || profile.experience == .expert

/-- A remark that is made unless a check was passed. -/
def objection (passed : Bool) (remark : String) : List String := if passed then [] else [remark]

/-- Whether an operation suits the user with this profile. -/
def compatibility (config : Config) (op : Operation) (profile : Profile) : Compatibility :=
  match assess? config { op with profile := some profile } with
  | .error _ => { compatible := false, warnings := ["Could not assess operation risk"] }
  | .ok assessment =>
    let tolerated := toleratedBy profile assessment.overall
    let affordable := affordableBy profile op
    let manageable := manageableBy profile op
    let risk := assessment.overall.name
    let tolerance := profile.tolerance.name
    { compatible := tolerated && affordable && manageable
      warnings :=
        objection tolerated s!"Operation risk ({risk}) exceeds your risk tolerance ({tolerance})" ++
        objection affordable "Operation size exceeds your risk capacity" ++
        objection manageable "This operation may be too complex for your experience level"
      suggestions :=
        objection tolerated "Consider reducing the amount or using a less risky strategy" ++
        objection affordable "Reduce the amount to stay within your risk limits" ++
        objection manageable "Consider starting with simpler operations or seeking guidance" }

theorem objection_eq_nil_iff {passed : Bool} {remark : String} :
    objection passed remark = [] ↔ passed = true := by
  cases passed <;> simp [objection]

/-- Each check that is not passed is warned of, and nothing else is. -/
theorem compatible_eq_isEmpty_warnings (config : Config) (op : Operation) (profile : Profile) :
    (compatibility config op profile).compatible =
      (compatibility config op profile).warnings.isEmpty := by
  unfold compatibility
  split
  · rfl
  · rw [Bool.eq_iff_iff, List.isEmpty_iff]
    simp only [Bool.and_eq_true, List.append_eq_nil_iff, objection_eq_nil_iff]

def Compatibility.document (c : Compatibility) : Document :=
  .record [("compatible", .flag c.compatible), ("warnings", .texts c.warnings),
    ("suggestions", .texts c.suggestions), ("issues", .texts c.warnings)]

end Teller.Risk
