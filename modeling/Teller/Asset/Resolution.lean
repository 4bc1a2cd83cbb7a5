import Teller.Asset.Basic
import Teller.Asset.Distance
import Teller.Failure
import Teller.Listing
import Teller.Text.Words

/-!
# Resolution of asset references

A reference names an asset by its symbol, by a further name, or, if that is allowed, by a text that
is similar enough to its symbol or name.
-/

namespace Teller.Asset

open Teller.Listing

/-- How references are resolved and searched. -/
structure Config where
  leastScore : Float := 0.6
  maxSuggestions : Int := 5
  fuzzy : Bool := true
  preferStablecoins : Bool := false
  preferPopular : Bool := true

/-- How a reference was matched. -/
inductive MatchKind where
  | exact | otherName | fuzzy | partly
  deriving DecidableEq, Repr

def MatchKind.name : MatchKind → String
  | exact => "exact"
  | otherName => "alias"
  | fuzzy => "fuzzy"
  | partly => "partial"

structure Scored where
  asset : Asset
  score : Float
  kind : MatchKind

/-- Similar in symbol, similar in name, or containing the reference: the ways to score, with their
scores. A similarity of 0.3 or less does not count. -/
def offers (needle : String) (asset : Asset) : List (Float × MatchKind) :=
  let symbol := Text.lower asset.symbol
  let name := Text.lower (normalizeSymbol asset.name)
  let weighted (other : String) (weight : Float) : List (Float × MatchKind) :=
    let s := similarity needle other
    if 0.3 < s then [(s * weight, .fuzzy)] else []
  weighted symbol 0.9 ++ weighted name 0.8 ++
    if Text.contains symbol needle || Text.contains name needle then [(0.7, .partly)] else []

/-- The asset with the first of its best scores, if it has any. -/
def scored? (needle : String) (asset : Asset) : Option Scored :=
  (greatest? (fun a b : Float × MatchKind => b.1 < a.1) (offers needle asset)).map
    fun (score, kind) => ⟨asset, score, kind⟩

/-- A higher score is better, and at the same score a higher popularity. -/
def Scored.better (a b : Scored) : Bool :=
  b.score < a.score || a.score == b.score && b.asset.popularity < a.asset.popularity

def fuzzyMatches (catalog : Catalog) (reference : String) : List Scored :=
  ranked Scored.better (catalog.assets.filterMap (scored? (Text.lower reference)))

structure Resolution where
  asset : Asset
  confidence : Float
  kind : MatchKind
  alternatives : List Asset := []
  suggestions : List String := []

/-- Why a reference is not resolved. -/
inductive ResolveError where
  | empty
  | unknown (reference : String)
  deriving DecidableEq, Repr

/-- The best of the scored assets, if its score suffices, with the next ones as alternatives. -/
def resolveFuzzily? (config : Config) (matched : List Scored) : Option Resolution :=
  match matched with
  | [] => none
  | best :: _ =>
    if config.leastScore ≤ best.score then
      some {
        asset := best.asset
        confidence := Number.roundTo 4 best.score
        kind := best.kind
        alternatives := ((limited config.maxSuggestions matched).drop 1).map (·.asset)
        suggestions := (matched.take 3).map fun m =>
          s!"Did you mean {m.asset.symbol} ({m.asset.name})?" }
    else none

/-- Resolves a reference: by symbol, else by a further name, else by similarity. -/
def resolve (config : Config) (catalog : Catalog) (raw : String) : Except ResolveError Resolution :=
  let reference := normalizeSymbol raw
  if reference.isEmpty then .error .empty
  else match catalog.table.get? reference with
    | some asset => .ok { asset, confidence := 1, kind := .exact }
    | none =>
      match catalog.ofAlias? reference with
      | some asset => .ok { asset, confidence := 0.95, kind := .otherName }
      | none =>
        let found :=
          if config.fuzzy then resolveFuzzily? config (fuzzyMatches catalog reference) else none
        match found with
        | some r => .ok r
        | none => .error (.unknown reference)

/-- What to try instead of an unknown reference. -/
def suggestionsFor (config : Config) (reference : String) : List String :=
  (if config.preferPopular then ["Try popular assets like USDC, SEI, or ETH"] else []) ++
    (if Text.contains reference "USD" || Text.contains reference "STABLE" ||
        config.preferStablecoins then ["For stable value, consider USDC or USDT"] else []) ++
    ["Check the spelling of the asset symbol"]

/-- The failure to resolve the given reference. -/
def ResolveError.failure (config : Config) (raw : Option String) : ResolveError → Failure
  | empty =>
    .of .assetResolution .invalidAssetInput "Empty or invalid asset input" [("input", .text? raw)]
  | unknown reference =>
    .of .assetResolution .assetNotFound ("Could not resolve asset: " ++ raw.getD "None")
      [("input", .text reference), ("suggestions", .texts (suggestionsFor config reference))]

def Resolution.document (r : Resolution) : Document :=
  .record [("asset", r.asset.document), ("confidence", .real r.confidence),
    ("match_type", .text r.kind.name), ("alternatives", .texts (r.alternatives.map (·.symbol))),
    ("suggestions", .texts r.suggestions)]

end Teller.Asset
