import Teller.Desk.Basic
import Teller.Intake.Configuration

/-!
# Settings

The settings of the whole desk, one option each under a name of its own. They come from an
environment, where names are in any case, and give every part of the desk its configuration.
-/

namespace Teller

/-- The settings of the desk. Tokens that count as liquid are separated by commas. -/
structure Settings where
  logLevel : String := "INFO"
  amounts : Amount.Config := {}
  assets : Asset.Config := {}
  risks : Risk.Config := {}
  strategies : Strategy.Config := {}
  bounds : Review.Config := {}
  liquidTokens : String := "USDC,USDT,ETH,SEI,WSEI"
  commands : Command.Config := {}
  deadline : Int := 1800

namespace Settings

open Intake

/-- All options in the order in which they are read. -/
def options : List (Setting Settings) :=
  [.ofText "log_level" "log_level" (·.logLevel) fun x s => { s with logLevel := x }] ++
  amountSettings.map (.ofPart (·.amounts) fun x s => { s with amounts := x }) ++
  assetSettings.map (.ofPart (·.assets) fun x s => { s with assets := x }) ++
  riskSettings.map (.ofPart (·.risks) fun x s => { s with risks := x }) ++
  strategySettings.map (.ofPart (·.strategies) fun x s => { s with strategies := x }) ++
  [.ofPart (·.bounds) (fun x s => { s with bounds := x }) borrowSetting,
    .ofText "liquid_tokens" "validation_liquid_tokens" (·.liquidTokens) fun x s =>
      { s with liquidTokens := x }] ++
  warningSettings.map (.ofPart (·.bounds) fun x s => { s with bounds := x }) ++
  [.ofPart (·.commands) (fun x s => { s with commands := x }) slippageSetting,
    .ofWhole "deadline_seconds" "command_deadline_seconds" (·.deadline) fun x s =>
      { s with deadline := x }] ++
  confirmationSettings.map (.ofPart (·.commands) fun x s => { s with commands := x })

def read (d : Document) : Checked Settings := configured (·.setting) options {} d

/-- Settings from an environment of names and texts. -/
def ofEnvironment (entries : List (String × String)) : Checked Settings :=
  read (.record (entries.map fun (name, value) => (Text.lower name, .text value)))

/-- The tokens that count as liquid, in upper case. -/
def liquidList (s : Settings) : List String :=
  let named := (Text.fields ',' s.liquidTokens.toList).map fun token =>
    String.ofList (Text.strip Text.isBlank token)
  (named.filter (· ≠ "")).map Text.upper

def reviews (s : Settings) : Review.Config := { s.bounds with liquidTokens := s.liquidList }

def desk (s : Settings) : Desk where
  slippage := s.commands.slippage
  deadline := s.deadline
  amounts := s.amounts
  assets := s.assets
  reviews := s.reviews
  commands := s.commands
  risks := s.risks

/-! ## Reports -/

/-- The configurations of all parts, as they are reported. -/
def configurations (s : Settings) : Document :=
  .record [("amount_parser_config", configuration (·.name) amountSettings s.amounts),
    ("asset_resolver_config", configuration (·.name) assetSettings s.assets),
    ("risk_profiler_config", configuration (·.name) riskSettings s.risks),
    ("strategy_matcher_config", configuration (·.name) strategySettings s.strategies),
    ("validator_config", configuration (·.name) reviewSettings s.reviews),
    ("builder_config", configuration (·.name) commandSettings s.commands),
    ("parser_config", .record [("default_slippage", .real s.commands.slippage),
      ("deadline_seconds", .whole s.deadline)])]

def document (s : Settings) : Document := configuration (·.setting) options s

end Settings

end Teller
