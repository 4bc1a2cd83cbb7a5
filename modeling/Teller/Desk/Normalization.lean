import Teller.Desk.Basic

/-!
# Normalization of entities

Tokens become symbols of the catalog, protocols identifiers of venues, amounts plain numbers, and of
leverages and slippages the first number in the text is taken. What cannot be normalized is kept as
it is, so that the review can report it. Only the normalized text of an entity changes.

    kind_normalize, value_normalize      kind and text as typed are kept
-/

namespace Teller.Desk

/-! ## Numbers inside texts -/

/-- The digits at the start of a text, with a fraction if digits follow the point. -/
def leadingNumeral (cs : List Char) : List Char :=
  let whole := cs.takeWhile Text.isDigit
  match whole, cs.dropWhile Text.isDigit with
  | _ :: _, '.' :: rest =>
    let fraction := rest.takeWhile Text.isDigit
    if fraction.isEmpty then whole else whole ++ '.' :: fraction
  | _, _ => whole

/-- The number at the start of a text, which may be negative. -/
def numberAt? (cs : List Char) : Option Float :=
  let (minus, digits) := match cs with
    | '-' :: rest => (['-'], rest)
    | rest => ([], rest)
  let numeral := leadingNumeral digits
  if numeral.isEmpty then none else Number.read? (String.ofList (minus ++ numeral))

/-- The first number in a text. -/
def firstNumber? : List Char → Option Float
  | [] => none
  | c :: rest => (numberAt? (c :: rest)).or (firstNumber? rest)

/-! ## Entities -/

/-- The symbol of a token, or its text in upper case. -/
def tokenText (desk : Desk) (e : Entity) : String :=
  match Asset.resolve desk.assets desk.catalog e.text with
  | .ok r => r.asset.symbol
  | .error _ => Text.upper e.text

/-- The identifier of a protocol, or its text in lower case. -/
def protocolText (e : Entity) : String :=
  match Venue.resolve? e.text with
  | some v => v.id
  | none => Text.lower e.text

/-- What shares are shares of: the balance of the first token, and the value of all positions. -/
def basesFor (account : Account) (token : Option String) : Amount.Bases where
  balance := account.balanceOf? token
  portfolio := account.portfolioValue?
  currency := token

/-- The number of an amount as it was typed, or else the text that was normalized before. -/
def amountText (desk : Desk) (bases : Option Amount.Bases) (e : Entity) : String :=
  let typed := if e.value.isEmpty then e.normalized else e.value
  match Amount.parse desk.amounts bases (some typed) with
  | .ok r => r.normalized
  | .error _ => e.normalized

/-- The first number in the text of a leverage or slippage, or the text itself. -/
def figureText (e : Entity) : String :=
  match firstNumber? e.text.toList with
  | some x => Number.plain x
  | none => e.normalized

def normalizedText (desk : Desk) (bases : Option Amount.Bases) (e : Entity) : String :=
  match e.kind with
  | .token => tokenText desk e
  | .amount => amountText desk bases e
  | .protocol => protocolText e
  | .leverage | .slippage => figureText e

def normalizeEntity (desk : Desk) (bases : Option Amount.Bases) (e : Entity) : Entity :=
  { e with normalized := normalizedText desk bases e }

/-- The normalized text of the first token. -/
def firstToken? (desk : Desk) (entities : List Entity) : Option String :=
  (Entity.ofKind .token entities).head?.map (tokenText desk)

def normalize (desk : Desk) (entities : List Entity) (account : Option Account) : List Entity :=
  let bases := account.map fun a => basesFor a (firstToken? desk entities)
  entities.map (normalizeEntity desk bases)

/-! ## Lemmas -/

theorem kind_normalize (desk : Desk) (entities : List Entity) (account : Option Account) :
    (normalize desk entities account).map (·.kind) = entities.map (·.kind) := by
  simp [normalize, normalizeEntity, Function.comp_def]

theorem value_normalize (desk : Desk) (entities : List Entity) (account : Option Account) :
    (normalize desk entities account).map (·.value) = entities.map (·.value) := by
  simp [normalize, normalizeEntity, Function.comp_def]

end Teller.Desk
