import Teller.Amount.Reading
import Teller.Asset.Resolution
import Teller.Clock
import Teller.Command.Building
import Teller.Risk.Assessment
import Teller.Validation.Review

/-!
# The desk

A desk takes requests and answers with commands or questions. It is made of the parts that read
amounts, resolve assets, review parameters, build commands and assess risk, each with its own
configuration.
-/

namespace Teller

/-- A desk. Slippage is in percent and the deadline in seconds. -/
structure Desk where
  slippage : Float := 0.5
  deadline : Int := 1800
  amounts : Amount.Config := {}
  assets : Asset.Config := {}
  catalog : Asset.Catalog := .standard
  reviews : Review.Config := {}
  commands : Command.Config := {}
  risks : Risk.Config := {}

/-- The time of a request, in whole seconds and in whole milliseconds. -/
structure Desk.Moment where
  seconds : Int
  milliseconds : Int

def Desk.Moment.ofReading (seconds : Float) : Except Fault Desk.Moment := do
  return ⟨← Clock.wholeSeconds seconds, ← Clock.milliseconds seconds⟩

end Teller
