import Teller.Risk.Level
import Teller.Document
import Teller.Listing
import Teller.Table
import Teller.Text.Case
import Teller.Text.Words

/-!
# Strategies

A catalog of strategies for earning on assets, each with its risk, return, limits and steps.

    nodup_ids               a catalog has every identifier once
    mem_strategies_iff      it has the strategies that it answers with
-/

namespace Teller

inductive Strategy.Category where
  | lending | yieldFarming | leveragedFarming | arbitrage
  deriving DecidableEq, Repr

namespace Strategy.Category

def all : List Category := [lending, yieldFarming, leveragedFarming, arbitrage]

def name : Category → String
  | lending => "lending"
  | yieldFarming => "yield_farming"
  | leveragedFarming => "leveraged_farming"
  | arbitrage => "arbitrage"

def ofName? (name : String) : Option Category := all.find? (·.name == name)

end Strategy.Category

structure Strategy.Step where
  id : String
  description : String
  protocol : String
  action : String
  gas : Int
  required : Bool := true

structure Strategy where
  id : String
  name : String
  description : String
  category : Strategy.Category
  risk : Risk.Level
  apy : Float
  least : Float
  most : Option Float := none
  duration : Option Int := none
  protocols : List String
  steps : List Strategy.Step
  advantages : List String := []
  disadvantages : List String := []
  tags : List String := []
  popularity : Float := 0.5
  successRate : Float := 0.8
  requirements : List String := []
  warnings : List String := []

namespace Strategy

open Teller.Listing

/-- The strategy works with borrowed funds, by its category or by its name. -/
def usesLeverage (s : Strategy) : Bool :=
  s.category == .leveragedFarming || Text.contains (Text.lower s.name) "leverage"

/-- The difficulty of a strategy, by its number of steps. -/
def difficulty (s : Strategy) : String :=
  if s.steps.length ≤ 2 then "easy"
  else if s.steps.length ≤ 4 then "medium"
  else "hard"

/-- The greatest amount; a limit of zero is none. -/
def limit? (s : Strategy) : Option Float := s.most.filter (· != 0)

/-- A list of strategies as it was declared. -/
structure Catalog where
  declared : List Strategy

namespace Catalog

/-- The strategies under their identifiers. -/
def table (c : Catalog) : Table Strategy := Table.ofList (c.declared.map fun s => (s.id, s))

/-- The strategies, each identifier once. -/
def strategies (c : Catalog) : List Strategy := c.table.values

def get? (c : Catalog) (id : String) : Option Strategy := c.table.get? id

/-- What the catalog holds for every strategy declared in a category, the most popular first. -/
def ofCategory (c : Catalog) (category : Category) : List Strategy :=
  ranked (fun a b => b.popularity < a.popularity)
    ((c.declared.filter (·.category == category)).filterMap fun s => c.get? s.id)

/-- The strategies that are popular and succeed. -/
def trending (c : Catalog) (limit : Option Int) : List Strategy :=
  let appeal (s : Strategy) : Float := s.popularity * 0.6 + s.successRate * 0.4
  limited? limit (ranked (fun a b => appeal b < appeal a) c.strategies)

/-- The strategies that the desk knows unless told otherwise. -/
def standard : Catalog := ⟨[
  { id := "usdc-lending-silo", name := "USDC Lending on Silo"
    description := "Conservative lending strategy for stable returns"
    category := .lending, risk := .low, apy := 5.2, least := 100, most := some 1000000
    protocols := ["silo"]
    steps := [⟨"supply-usdc", "Supply USDC to Silo lending pool", "silo", "supply", 150000, true⟩]
    advantages := ["Low risk", "Stable returns", "High liquidity"]
    disadvantages := ["Lower APY than risky strategies"]
    tags := ["stable", "conservative", "lending"]
    popularity := 0.85, successRate := 0.95
    requirements := ["USDC balance"] },
  { id := "sei-usdc-lp-dragonswap", name := "SEI/USDC LP on DragonSwap"
    description := "Provide liquidity to SEI/USDC pair for trading fees"
    category := .yieldFarming, risk := .medium, apy := 12.5, least := 500, most := some 500000
    protocols := ["dragonswap"]
    steps := [
      ⟨"approve-tokens", "Approve SEI and USDC for trading", "dragonswap", "approve", 100000, true⟩,
      ⟨"add-liquidity", "Add liquidity to SEI/USDC pool", "dragonswap", "addLiquidity", 200000,
        true⟩]
    advantages := ["Good APY", "Trading fee income", "Popular pair"]
    disadvantages := ["Impermanent loss risk", "Price volatility"]
    tags := ["liquidity", "trading-fees", "medium-risk"]
    popularity := 0.75, successRate := 0.85
    requirements := ["SEI and USDC balance", "Impermanent loss understanding"]
    warnings := ["Subject to impermanent loss"] },
  { id := "leveraged-sei-farming", name := "Leveraged SEI Yield Farming"
    description := "Use leverage to amplify SEI farming returns"
    category := .leveragedFarming, risk := .high, apy := 25.8, least := 1000, most := some 100000
    duration := some 2592000
    protocols := ["takara", "dragonswap"]
    steps := [
      ⟨"supply-collateral", "Supply SEI as collateral", "takara", "supply", 180000, true⟩,
      ⟨"borrow-usdc", "Borrow USDC against SEI collateral", "takara", "borrow", 220000, true⟩,
      ⟨"farm-with-borrowed", "Use borrowed USDC for yield farming", "dragonswap", "farm", 250000,
        true⟩]
    advantages := ["High potential returns", "Leverage amplification"]
    disadvantages := ["High risk", "Liquidation risk", "Complex management"]
    tags := ["leverage", "high-risk", "advanced"]
    popularity := 0.45, successRate := 0.65
    requirements := ["SEI collateral", "Risk management skills", "Active monitoring"]
    warnings := ["High liquidation risk", "Requires active management"] },
  { id := "arbitrage-cross-dex", name := "Cross-DEX Arbitrage"
    description := "Profit from price differences across DEXes"
    category := .arbitrage, risk := .high, apy := 35, least := 5000
    protocols := ["dragonswap", "symphony"]
    steps := [
      ⟨"scan-opportunities", "Scan for arbitrage opportunities", "scanner", "scan", 0, true⟩,
      ⟨"execute-arbitrage", "Execute arbitrage trades", "multiple", "arbitrage", 400000, true⟩]
    advantages := ["High returns", "Market neutral", "Fast execution"]
    disadvantages := ["Technical complexity", "MEV competition", "Gas sensitivity"]
    tags := ["arbitrage", "advanced", "technical"]
    popularity := 0.25, successRate := 0.70
    requirements := ["Technical knowledge", "Fast execution capability", "MEV protection"]
    warnings := ["Requires technical expertise", "Competition from MEV bots"] },
  { id := "stable-yield-diversified", name := "Diversified Stable Yield"
    description := "Spread stablecoins across multiple protocols"
    category := .yieldFarming, risk := .low, apy := 7.8, least := 1000
    protocols := ["silo", "takara"]
    steps := [
      ⟨"split-allocation", "Split funds between protocols", "multiple", "allocate", 300000, true⟩,
      ⟨"monitor-rates", "Monitor and rebalance rates", "multiple", "rebalance", 200000, false⟩]
    advantages := ["Risk diversification", "Stable returns", "Protocol risk mitigation"]
    disadvantages := ["Higher gas costs", "Management overhead"]
    tags := ["diversified", "stable", "conservative"]
    popularity := 0.60, successRate := 0.92
    requirements := ["Multiple stablecoins", "Rebalancing strategy"] }]⟩

/-! ## Lemmas -/

variable {c : Catalog} {s : Strategy}

theorem id_of_mem_table {e : String × Strategy} (h : e ∈ c.table) : e.1 = e.2.id := by
  obtain ⟨declared, -, rfl⟩ := List.mem_map.1 (Table.mem_ofList h)
  rfl

theorem nodup_ids (c : Catalog) : (c.strategies.map (·.id)).Nodup := by
  have ids : c.strategies.map (·.id) = c.table.map (·.1) := by
    unfold strategies Table.values
    rw [List.map_map]
    exact List.map_congr_left fun e he => (id_of_mem_table he).symm
  rw [ids]
  exact Table.nodup_ofList _

theorem mem_strategies_iff : s ∈ c.strategies ↔ c.get? s.id = some s := by
  have distinct : (c.table.map (·.1)).Nodup := Table.nodup_ofList _
  unfold get?
  rw [Table.get?_eq_some_iff distinct]
  constructor
  · intro h
    obtain ⟨⟨id, s⟩, he, rfl⟩ := List.mem_map.1 h
    rw [← id_of_mem_table he]
    exact he
  · exact fun h => List.mem_map_of_mem h

end Catalog

/-! ## Reports -/

def Step.document (s : Step) : Document :=
  .record [("id", .text s.id), ("description", .text s.description),
    ("protocol", .text s.protocol), ("action", .text s.action), ("estimated_gas", .whole s.gas),
    ("required", .flag s.required)]

/-- The fields of a strategy that accompany a match. -/
def summary (s : Strategy) : Document :=
  .record [("id", .text s.id), ("name", .text s.name), ("category", .text s.category.name),
    ("risk_level", .text s.risk.name), ("expected_apy", .real s.apy), ("min_amount", .real s.least),
    ("max_amount", .real? s.most), ("protocols", .texts s.protocols),
    ("steps", .listOf Step.document s.steps)]

def document (s : Strategy) : Document :=
  .record [("id", .text s.id), ("name", .text s.name), ("description", .text s.description),
    ("category", .text s.category.name), ("risk_level", .text s.risk.name),
    ("expected_apy", .real s.apy), ("min_amount", .real s.least), ("max_amount", .real? s.most),
    ("duration", .whole? s.duration), ("protocols", .texts s.protocols),
    ("steps", .listOf Step.document s.steps), ("advantages", .texts s.advantages),
    ("disadvantages", .texts s.disadvantages), ("tags", .texts s.tags),
    ("popularity", .real s.popularity), ("success_rate", .real s.successRate),
    ("requirements", .texts s.requirements), ("warnings", .texts s.warnings),
    ("uses_leverage", .flag s.usesLeverage), ("difficulty", .text s.difficulty)]

end Strategy

end Teller
