import Teller.Amount.Basic
import Teller.Asset.Resolution
import Teller.Command.Building
import Teller.Intake.Basic
import Teller.Risk.Assessment
import Teller.Strategy.Matching
import Teller.Validation.Review

/-!
# Configurations

Each part of the desk has a configuration, a record of options. An option has a name in its record
and a name of its own among the settings of the whole desk. A configuration is read by entering the
given options into the standard one.
-/

namespace Teller.Intake

/-- An option of a configuration. -/
structure Setting (σ : Type) where
  name : String
  setting : String
  enter : Document → Checked (σ → σ)
  shown : σ → Document

namespace Setting

variable {σ τ : Type}

def ofReal (name setting : String) (get : σ → Float) (set : Float → σ → σ) : Setting σ :=
  ⟨name, setting, fun d => set <$> real d, fun c => .real (get c)⟩

def ofWhole (name setting : String) (get : σ → Int) (set : Int → σ → σ) : Setting σ :=
  ⟨name, setting, fun d => set <$> whole d, fun c => .whole (get c)⟩

def ofFlag (name setting : String) (get : σ → Bool) (set : Bool → σ → σ) : Setting σ :=
  ⟨name, setting, fun d => set <$> flag d, fun c => .flag (get c)⟩

def ofText (name setting : String) (get : σ → String) (set : String → σ → σ) : Setting σ :=
  ⟨name, setting, fun d => set <$> text d, fun c => .text (get c)⟩

/-- An option of a part as an option of the whole. -/
def ofPart (get : τ → σ) (set : σ → τ → τ) (s : Setting σ) : Setting τ where
  name := s.name
  setting := s.setting
  enter d := (fun change t => set (change (get t)) t) <$> s.enter d
  shown t := s.shown (get t)

/-- The change that a record asks for, under the name that the option has in it. -/
def change (nameOf : Setting σ → String) (d : Document) (s : Setting σ) : Checked (σ → σ) :=
  defaulted (nameOf s) s.enter id d

end Setting

/-- Enters the options of a record into a configuration. -/
def configured {σ : Type} (nameOf : Setting σ → String) (settings : List (Setting σ)) (start : σ)
    (d : Document) : Checked σ :=
  (fun changes => changes.foldl (fun c change => change c) start) <$>
    Checked.all (settings.map (Setting.change nameOf d))

def configuration {σ : Type} (nameOf : Setting σ → String) (settings : List (Setting σ)) (c : σ) :
    Document :=
  .record (settings.map fun s => (nameOf s, s.shown c))

/-! ## The parts of the desk -/

def amountSettings : List (Setting Amount.Config) := [
  .ofReal "min_amount" "amount_min_amount" (·.least) fun x c => { c with least := x },
  .ofReal "max_amount" "amount_max_amount" (·.most) fun x c => { c with most := x },
  .ofWhole "default_decimals" "amount_default_decimals" (·.places) fun x c =>
    { c with places := x },
  .ofFlag "allow_percentages" "amount_allow_percentages" (·.percentages) fun x c =>
    { c with percentages := x },
  .ofFlag "allow_relative_amounts" "amount_allow_relative" (·.relative) fun x c =>
    { c with relative := x }]

def assetSettings : List (Setting Asset.Config) := [
  .ofReal "min_fuzzy_score" "asset_min_fuzzy_score" (·.leastScore) fun x c =>
    { c with leastScore := x },
  .ofWhole "max_suggestions" "asset_max_suggestions" (·.maxSuggestions) fun x c =>
    { c with maxSuggestions := x },
  .ofFlag "enable_fuzzy_matching" "asset_enable_fuzzy" (·.fuzzy) fun x c => { c with fuzzy := x },
  .ofFlag "prefer_stablecoins" "asset_prefer_stablecoins" (·.preferStablecoins) fun x c =>
    { c with preferStablecoins := x },
  .ofFlag "prefer_popular" "asset_prefer_popular" (·.preferPopular) fun x c =>
    { c with preferPopular := x }]

def riskSettings : List (Setting Risk.Config) := [
  .ofReal "conservative_threshold" "risk_conservative_threshold" (·.conservative) fun x c =>
    { c with conservative := x },
  .ofReal "moderate_threshold" "risk_moderate_threshold" (·.moderate) fun x c =>
    { c with moderate := x },
  .ofReal "aggressive_threshold" "risk_aggressive_threshold" (·.aggressive) fun x c =>
    { c with aggressive := x },
  .ofFlag "enable_dynamic_scoring" "risk_enable_dynamic_scoring" (·.dynamic) fun x c =>
    { c with dynamic := x },
  .ofReal "market_volatility_weight" "risk_market_volatility_weight" (·.volatilityWeight)
    fun x c => { c with volatilityWeight := x }]

def strategySettings : List (Setting Strategy.Config) := [
  .ofReal "min_match_score" "strategy_min_match_score" (·.leastScore) fun x c =>
    { c with leastScore := x },
  .ofWhole "max_results" "strategy_max_results" (·.maxResults) fun x c => { c with maxResults := x },
  .ofFlag "enable_dynamic_adjustments" "strategy_enable_dynamic_adjustments" (·.adjust) fun x c =>
    { c with adjust := x },
  .ofFlag "prefer_popular_strategies" "strategy_prefer_popular" (·.preferPopular) fun x c =>
    { c with preferPopular := x },
  .ofReal "risk_adjustment_factor" "strategy_risk_adjustment_factor" (·.riskFactor) fun x c =>
    { c with riskFactor := x }]

/-- The greatest part of collateral that may be borrowed. -/
def borrowSetting : Setting Review.Config :=
  .ofReal "borrow_ltv" "validation_borrow_ltv" (·.borrowLtv) fun x c => { c with borrowLtv := x }

/-- The bounds beyond which a review warns. -/
def warningSettings : List (Setting Review.Config) := [
  .ofReal "high_balance_ratio" "validation_high_balance_ratio" (·.highBalanceRatio) fun x c =>
    { c with highBalanceRatio := x },
  .ofReal "high_utilization_ratio" "validation_high_utilization_ratio" (·.highUtilizationRatio)
    fun x c => { c with highUtilizationRatio := x },
  .ofReal "max_price_impact" "validation_max_price_impact" (·.maxPriceImpact) fun x c =>
    { c with maxPriceImpact := x }]

/-- The tokens that count as liquid, in a list. -/
def liquidSetting : Setting Review.Config where
  name := "liquid_tokens"
  setting := "validation_liquid_tokens"
  enter := fun
    | d@(.list _) => (fun x (c : Review.Config) => { c with liquidTokens := x }) <$> list text d
    | _ => Checked.complain .notTuple
  shown c := .texts c.liquidTokens

def reviewSettings : List (Setting Review.Config) :=
  borrowSetting :: liquidSetting :: warningSettings

/-- The slippage of optimized swaps. -/
def slippageSetting : Setting Command.Config :=
  .ofReal "default_slippage" "command_default_slippage" (·.slippage) fun x c =>
    { c with slippage := x }

/-- The bounds beyond which commands are to be confirmed. -/
def confirmationSettings : List (Setting Command.Config) := [
  .ofReal "confirmation_amount" "command_confirmation_amount" (·.confirmAmount) fun x c =>
    { c with confirmAmount := x },
  .ofReal "confirmation_leverage" "command_confirmation_leverage" (·.confirmLeverage) fun x c =>
    { c with confirmLeverage := x }]

def commandSettings : List (Setting Command.Config) := slippageSetting :: confirmationSettings

end Teller.Intake
