/-!
# Intents

What a user can want from the desk. The intent of a request is classified before it arrives.
-/

namespace Teller

/-- What the user wants. -/
inductive Intent where
  | lend | borrow | repay | withdraw | swap | addLiquidity | removeLiquidity
  | openPosition | closePosition | arbitrage | crossProtocolArbitrage
  | portfolioStatus | riskAssessment | yieldOptimization | rebalance
  | showRates | showPositions | compareProtocols | marketAnalysis
  | help | explain | unknown
  deriving DecidableEq, Repr

namespace Intent

def all : List Intent :=
  [lend, borrow, repay, withdraw, swap, addLiquidity, removeLiquidity, openPosition, closePosition,
    arbitrage, crossProtocolArbitrage, portfolioStatus, riskAssessment, yieldOptimization, rebalance,
    showRates, showPositions, compareProtocols, marketAnalysis, help, explain, unknown]

def name : Intent → String
  | lend => "lend"
  | borrow => "borrow"
  | repay => "repay"
  | withdraw => "withdraw"
  | swap => "swap"
  | addLiquidity => "add_liquidity"
  | removeLiquidity => "remove_liquidity"
  | openPosition => "open_position"
  | closePosition => "close_position"
  | arbitrage => "arbitrage"
  | crossProtocolArbitrage => "cross_protocol_arbitrage"
  | portfolioStatus => "portfolio_status"
  | riskAssessment => "risk_assessment"
  | yieldOptimization => "yield_optimization"
  | rebalance => "rebalance"
  | showRates => "show_rates"
  | showPositions => "show_positions"
  | compareProtocols => "compare_protocols"
  | marketAnalysis => "market_analysis"
  | help => "help"
  | explain => "explain"
  | unknown => "unknown"

def ofName? (name : String) : Option Intent := all.find? (·.name == name)

def action : Intent → String
  | lend => "supply"
  | borrow => "borrow"
  | repay => "repay"
  | withdraw => "withdraw"
  | swap => "swap"
  | addLiquidity => "addLiquidity"
  | removeLiquidity => "removeLiquidity"
  | openPosition => "openPosition"
  | closePosition => "closePosition"
  | arbitrage => "arbitrage"
  | crossProtocolArbitrage => "crossProtocolArbitrage"
  | portfolioStatus => "getPortfolioStatus"
  | riskAssessment => "assessRisk"
  | yieldOptimization => "optimizeYield"
  | rebalance => "rebalance"
  | showRates => "getRates"
  | showPositions => "getPositions"
  | compareProtocols => "compareProtocols"
  | marketAnalysis => "analyzeMarket"
  | help => "getHelp"
  | explain => "explain"
  | unknown => "unknown"

/-- Arbitrage within one venue or across several. -/
def isArbitrage : Intent → Bool
  | arbitrage | crossProtocolArbitrage => true
  | _ => false

end Intent

end Teller
