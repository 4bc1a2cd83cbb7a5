import Teller.Failure
import Teller.Risk.Level
import Teller.Text.Case
import Teller.Text.Words

/-!
# Risk profiles

What is known about a user's attitude to risk, and how it is read from the answers to a
questionnaire in free text.
-/

namespace Teller.Risk

open Teller.Text

/-- How experienced a user is. -/
inductive Experience where
  | beginner | intermediate | advanced | expert
  deriving DecidableEq, Repr

namespace Experience

def all : List Experience := [beginner, intermediate, advanced, expert]

def name : Experience → String
  | beginner => "beginner"
  | intermediate => "intermediate"
  | advanced => "advanced"
  | expert => "expert"

def ofName? (name : String) : Option Experience := all.find? (·.name == name)

/-- How experience changes the capacity for risk. -/
def capacityFactor : Experience → Float
  | expert => 1.3
  | advanced => 1.2
  | intermediate => 1.0
  | beginner => 0.7

def ofText (text : String) : Experience :=
  let t := lower text
  if contains t "expert" || contains t "professional" then expert
  else if contains t "advanced" || contains t "experienced" then advanced
  else if contains t "intermediate" || contains t "some experience" then intermediate
  else beginner

end Experience

/-- For how long a user plans. -/
inductive Horizon where
  | short | medium | long
  deriving DecidableEq, Repr

namespace Horizon

def all : List Horizon := [short, medium, long]

def name : Horizon → String
  | short => "short_term"
  | medium => "medium_term"
  | long => "long_term"

def ofName? (name : String) : Option Horizon := all.find? (·.name == name)

def ofText (text : String) : Horizon :=
  let t := lower text
  if contains t "long" || contains t "year" || contains t "hold" then long
  else if contains t "medium" || contains t "month" then medium
  else short

end Horizon

structure Preferences where
  maxSinglePosition : Float := 0.2
  maxProtocolExposure : Float := 0.3
  allowLeverage : Bool := true
  maxLeverage : Float := 3
  allowExperimental : Bool := false
  preferAudited : Bool := true

/-- A user's attitude to risk. -/
structure Profile where
  tolerance : Level
  capacity : Float
  horizon : Horizon
  experience : Experience
  preferences : Preferences := {}

/-- Phrases for a tolerance of risk, longer ones first. -/
def tolerancePhrases : List (String × Level) :=
  [("extremely conservative", .veryLow), ("very conservative", .veryLow), ("very low", .veryLow),
    ("extremely aggressive", .veryHigh), ("very aggressive", .veryHigh), ("very high", .veryHigh),
    ("conservative", .low), ("safe", .low), ("low", .low), ("moderate", .medium),
    ("balanced", .medium), ("medium", .medium), ("aggressive", .high), ("risky", .high),
    ("high", .high)]

/-- Turns of phrase that let a tolerance be inferred. -/
def toleranceHints : List (List String × Level) :=
  [(["can't afford to lose", "cant afford to lose", "no risk", "100% safe"], .veryLow),
    (["little risk", "minimal risk", "very safe"], .low),
    (["some risk", "moderate", "balanced"], .medium),
    (["willing to risk", "higher returns", "growth"], .high),
    (["maximum returns", "all in", "yolo"], .veryHigh)]

/-- The text in which a tolerance is looked for. -/
def normalizeTolerance (text : String) : String := trim (lower text)

/-- The tolerance that a normalized text expresses: by a phrase in whole words, else by a hint. -/
def toleranceOf? (text : String) : Option Level :=
  ((tolerancePhrases.find? fun (phrase, _) => standsIn phrase text).map (·.2)).or
    ((toleranceHints.find? fun (hints, _) => hints.any (contains text)).map (·.2))

def tolerance (text : Option String) : Except Failure Level :=
  let normalized := normalizeTolerance (text.getD "")
  match toleranceOf? normalized with
  | some level => .ok level
  | none =>
    .error (.of .riskAnalysis .riskToleranceUnclear
      ("Could not interpret risk tolerance: " ++ text.getD "None") [("input", .text normalized)])

/-- The part of a portfolio of this size that may be put at risk. -/
def capacity (portfolioSize : Float) (experience : Experience) : Float :=
  let base :=
    if 1000000 < portfolioSize then 0.3 * 1.2
    else if 100000 < portfolioSize then 0.3 * 1.1
    else if portfolioSize < 10000 then 0.3 * 0.8
    else 0.3
  Number.Scale.atMost 0.5 (base * experience.capacityFactor)

/-- Answers to the questionnaire; each may be missing. -/
structure Answers where
  riskTolerance : Option String := none
  experience : Option String := none
  timeHorizon : Option String := none
  portfolioSize : Option Float := none
  leverageComfort : Option String := none
  experimentation : Option String := none
  auditPreference : Option String := none

def Answers.preferences (a : Answers) : Preferences :=
  let mentions (answer : Option String) (word : String) : Bool :=
    contains (lower (answer.getD "")) word
  { allowLeverage := !mentions a.leverageComfort "no"
    maxLeverage := if mentions a.leverageComfort "high" then 10 else 3
    allowExperimental := mentions a.experimentation "yes"
    preferAudited := !mentions a.auditPreference "no" }

/-- The profile that the answers describe. A tolerance that is not stated is medium. -/
def Answers.profile (a : Answers) : Except Failure Profile := do
  let level ← match a.riskTolerance.filter (· ≠ "") with
    | some text => tolerance (some text)
    | none => .ok .medium
  let experience := Experience.ofText (a.experience.getD "")
  return {
    tolerance := level
    capacity := capacity (a.portfolioSize.getD 0) experience
    horizon := Horizon.ofText (a.timeHorizon.getD "")
    experience
    preferences := a.preferences }

def Profile.document (p : Profile) : Document :=
  .record [("tolerance", .text p.tolerance.name), ("capacity", .real p.capacity),
    ("time_horizon", .text p.horizon.name), ("experience", .text p.experience.name),
    ("preferences", .record [
      ("max_single_position", .real p.preferences.maxSinglePosition),
      ("max_protocol_exposure", .real p.preferences.maxProtocolExposure),
      ("allow_leverage", .flag p.preferences.allowLeverage),
      ("max_leverage", .real p.preferences.maxLeverage),
      ("allow_experimental", .flag p.preferences.allowExperimental),
      ("prefer_audited", .flag p.preferences.preferAudited)])]

end Teller.Risk
