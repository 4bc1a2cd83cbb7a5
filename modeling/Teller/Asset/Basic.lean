import Teller.Document
import Teller.Table
import Teller.Text.Case

/-!
# Assets

A catalog of assets, each under its symbol in upper case, with further names for them.
-/

namespace Teller

structure Asset where
  symbol : String
  name : String
  decimals : Int
  chainId : Int := 1329
  isStablecoin : Bool := false
  isWrapped : Bool := false
  underlying : Option String := none
  aliases : List String := []
  tags : List String := []
  popularity : Int := 0
  marketCap : Option Float := none
  dailyVolume : Option Float := none
  priceUsd : Option Float := none

namespace Asset

/-- The market capitalisation, zero if unknown. -/
def capitalisation (a : Asset) : Float := a.marketCap.getD 0

def document (a : Asset) : Document :=
  .record [("symbol", .text a.symbol), ("name", .text a.name), ("decimals", .whole a.decimals),
    ("chain_id", .whole a.chainId), ("is_stablecoin", .flag a.isStablecoin),
    ("is_wrapped", .flag a.isWrapped), ("underlying", .text? a.underlying),
    ("aliases", .texts a.aliases), ("tags", .texts a.tags), ("popularity", .whole a.popularity),
    ("market_cap", .real? a.marketCap), ("daily_volume", .real? a.dailyVolume),
    ("price_usd", .real? a.priceUsd)]

/-- Letters and digits of ASCII only, in upper case: the form in which references are compared. -/
def normalizeSymbol (raw : String) : String :=
  String.ofList ((raw.toList.filter Char.isAlphanum).map Char.toUpper)

/-- A list of assets as it was declared. -/
structure Catalog where
  declared : List Asset

namespace Catalog

/-- The assets under their symbols. -/
def table (c : Catalog) : Table Asset :=
  Table.ofList (c.declared.map fun a => (Text.upper a.symbol, a))

/-- The assets, each symbol once. -/
def assets (c : Catalog) : List Asset := c.table.values

/-- The asset of a symbol in any case. -/
def get? (c : Catalog) (symbol : String) : Option Asset := c.table.get? (Text.upper symbol)

/-- The first declared asset with this further name, given in normalized form. -/
def ofAlias? (c : Catalog) (name : String) : Option Asset :=
  c.declared.find? fun a => a.aliases.any fun other => normalizeSymbol other == name

/-- The assets that the desk trades unless told otherwise. -/
def standard : Catalog := ⟨[
  { symbol := "SEI", name := "Sei", decimals := 6
    aliases := ["sei", "seinetwork"], tags := ["native", "gas"], popularity := 100
    marketCap := some 1000000000, dailyVolume := some 50000000, priceUsd := some 0.5 },
  { symbol := "WSEI", name := "Wrapped SEI", decimals := 6, isWrapped := true
    underlying := some "SEI", aliases := ["wsei", "wrapped-sei"], tags := ["wrapped", "defi"]
    popularity := 90 },
  { symbol := "USDC", name := "USD Coin", decimals := 6, isStablecoin := true
    aliases := ["usdc", "usd-coin", "dollar", "stable"], tags := ["stablecoin", "defi"]
    popularity := 95, marketCap := some 25000000000, dailyVolume := some 2000000000
    priceUsd := some 1 },
  { symbol := "USDT", name := "Tether USD", decimals := 6, isStablecoin := true
    aliases := ["usdt", "tether", "stable"], tags := ["stablecoin", "defi"], popularity := 85
    marketCap := some 80000000000, dailyVolume := some 15000000000, priceUsd := some 1 },
  { symbol := "ETH", name := "Ethereum", decimals := 18
    aliases := ["eth", "ethereum", "ether"], tags := ["major", "defi"], popularity := 98
    marketCap := some 200000000000, dailyVolume := some 8000000000, priceUsd := some 2000 },
  { symbol := "WETH", name := "Wrapped Ethereum", decimals := 18, isWrapped := true
    underlying := some "ETH", aliases := ["weth", "wrapped-eth"], tags := ["wrapped", "defi"]
    popularity := 88 },
  { symbol := "BTC", name := "Bitcoin", decimals := 8
    aliases := ["btc", "bitcoin"], tags := ["major", "store-of-value"], popularity := 99
    marketCap := some 500000000000, dailyVolume := some 10000000000, priceUsd := some 45000 },
  { symbol := "WBTC", name := "Wrapped Bitcoin", decimals := 8, isWrapped := true
    underlying := some "BTC", aliases := ["wbtc", "wrapped-btc"], tags := ["wrapped", "defi"]
    popularity := 80 },
  { symbol := "ATOM", name := "Cosmos", decimals := 6
    aliases := ["atom", "cosmos"], tags := ["cosmos", "ibc"], popularity := 75
    marketCap := some 3000000000, dailyVolume := some 150000000, priceUsd := some 12 },
  { symbol := "OSMO", name := "Osmosis", decimals := 6
    aliases := ["osmo", "osmosis"], tags := ["cosmos", "dex", "ibc"], popularity := 70
    marketCap := some 500000000, dailyVolume := some 25000000, priceUsd := some 1.5 }]⟩

end Catalog

end Asset

end Teller
