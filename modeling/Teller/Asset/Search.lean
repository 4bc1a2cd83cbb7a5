import Teller.Asset.Resolution

/-!
# Search in the catalog

Filters that an asset has to pass, and the ranking of those that do.
-/

namespace Teller.Asset

open Teller.Listing

/-- What is searched for; a missing filter lets every asset pass. -/
structure Query where
  text : Option String := none
  isStablecoin : Option Bool := none
  leastMarketCap : Option Float := none
  category : Option String := none
  limit : Option Int := none

/-- A text that is in the symbol, the name or a further name of the asset. -/
def mentions (asset : Asset) (text : String) : Bool :=
  (asset.symbol :: asset.name :: asset.aliases).any fun other =>
    Text.contains (Text.lower other) (Text.lower text)

/-- The asset passes every filter. Empty texts filter nothing, and an unknown or zero market
capitalisation reaches no bound. -/
def Query.accepts (q : Query) (asset : Asset) : Bool :=
  (q.text.filter (· ≠ "")).all (mentions asset) &&
    q.isStablecoin.all (asset.isStablecoin == ·) &&
    q.leastMarketCap.all (fun least => asset.marketCap.any fun cap => cap != 0 && least ≤ cap) &&
    (q.category.filter (· ≠ "")).all fun category => asset.tags.contains (Text.lower category)

/-- A greater market capitalisation is better; where popularity is preferred, it counts first. -/
def better (config : Config) (a b : Asset) : Bool :=
  if config.preferPopular then
    b.popularity < a.popularity ||
      a.popularity == b.popularity && b.capitalisation < a.capitalisation
  else b.capitalisation < a.capitalisation

/-- All assets that pass the filters, the best first. -/
def found (config : Config) (catalog : Catalog) (q : Query) : List Asset :=
  ranked (better config) (catalog.assets.filter q.accepts)

/-- The best assets that pass the filters, up to the limit; without a limit, or with a limit of
zero, as many as there may be suggestions. -/
def search (config : Config) (catalog : Catalog) (q : Query) : List Asset :=
  limited ((q.limit.filter (· ≠ 0)).getD config.maxSuggestions) (found config catalog q)

def morePopular (a b : Asset) : Bool := b.popularity < a.popularity

def popular (catalog : Catalog) (limit : Option Int) : List Asset :=
  limited? limit (ranked morePopular catalog.assets)

/-- The stablecoins, the most popular first. -/
def stablecoins (catalog : Catalog) : List Asset :=
  ranked morePopular (catalog.assets.filter (·.isStablecoin))

/-- Symbols of assets with a symbol, name or further name that begins with the text. -/
def completions (catalog : Catalog) (start : String) (limit : Option Int) : List String :=
  let start := Text.lower start
  if start.isEmpty then []
  else
    let hits := catalog.assets.filter fun a =>
      (a.symbol :: a.name :: a.aliases).any fun other => Text.startsWith (Text.lower other) start
    (limited? limit (ranked morePopular hits)).map (·.symbol)

end Teller.Asset
