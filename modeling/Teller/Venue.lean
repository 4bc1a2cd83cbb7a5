import Teller.Failure
import Teller.Intent
import Teller.Listing
import Teller.Text.Case
import Teller.Text.Words

/-!
# Venues

The protocols that the desk routes to, the intents that each of them serves, and the question
whether a user has a choice between several.

    id_injective      different venues have different identifiers
-/

namespace Teller

/-- A protocol that the desk routes to. -/
inductive Venue where
  | dragonswap | symphony | citrex | silo | takara
  deriving DecidableEq, Repr

namespace Venue

def all : List Venue := [dragonswap, symphony, citrex, silo, takara]

def id : Venue → String
  | dragonswap => "dragonswap"
  | symphony => "symphony"
  | citrex => "citrex"
  | silo => "silo"
  | takara => "takara"

/-- The name of a venue as users see it. -/
def title : Venue → String
  | dragonswap => "DragonSwap"
  | symphony => "Symphony"
  | citrex => "Citrex"
  | silo => "Silo"
  | takara => "Takara"

def ofId? (id : String) : Option Venue := all.find? (·.id == id)

/-- Short names for venues. -/
def aliases : List (String × Venue) :=
  [("dragon", dragonswap), ("ds", dragonswap), ("sym", symphony), ("ctx", citrex), ("tkr", takara),
    ("silofinance", silo)]

def serving : Intent → List Venue
  | .lend | .borrow => [silo, takara]
  | .swap | .addLiquidity | .removeLiquidity => [dragonswap, symphony]
  | .openPosition | .closePosition => [citrex]
  | _ => []

/-- The intent is carried out at a venue. -/
def isRequired (intent : Intent) : Bool := !(serving intent).isEmpty

/-- The identifier of a venue in any case. -/
def isKnown (name : String) : Bool := (ofId? (Text.lower name)).isSome

/-- The form in which names of venues are compared: lower-case letters and digits of ASCII. -/
def normalizeName (name : String) : String :=
  String.ofList ((Text.lower name).toList.filter fun c => c.isLower || c.isDigit)

/-- The venue that a name stands for, be it an identifier, a title or a short name. -/
def resolve? (name : String) : Option Venue :=
  let key := normalizeName name
  (ofId? key).or (aliases.lookup key)

/-- The identifiers in alphabetical order. -/
def supported : List String := ["citrex", "dragonswap", "silo", "symphony", "takara"]

def notFound (name : Option String) : Failure :=
  .of .protocolResolution .protocolNotFound ("Unknown protocol: " ++ name.getD "None")
    [("input", .text? name), ("supported", .texts supported)]

def resolve (name : Option String) : Except Failure String :=
  match resolve? (name.getD "") with
  | some v => .ok v.id
  | none => .error (notFound name)

/-- What a venue offers for an intent, where that is known. -/
def offer? : Venue → Intent → Option String
  | silo, .lend => some "Conservative lending with isolated markets"
  | silo, .borrow => some "Secure borrowing with risk isolation"
  | takara, .lend => some "Competitive rates with auto-compounding"
  | takara, .borrow => some "Flexible borrowing options"
  | dragonswap, .swap => some "Popular DEX with good liquidity"
  | dragonswap, .addLiquidity => some "Earn fees providing liquidity"
  | symphony, .swap => some "Advanced DEX with concentrated liquidity"
  | symphony, .addLiquidity => some "Higher capital efficiency"
  | citrex, .openPosition => some "Perpetual trading with leverage"
  | _, _ => none

def describe (title : String) (intent : Intent) : String :=
  ((all.find? (·.title == title)).bind (offer? · intent)).getD s!"Use {title} protocol"

/-- How a venue compares with the others, where users can choose. -/
def comparison? : Venue → Intent → Option String
  | silo, .lend => some "Highest safety, competitive rates"
  | takara, .lend => some "Best auto-compounding features"
  | dragonswap, .swap => some "Lowest fees for small trades"
  | symphony, .swap => some "Best rates for large trades"
  | _, _ => none

/-- The protocol with the most positions, the earlier one of two with equally many. -/
def mostUsed? (protocols : List String) : Option String := Listing.mostFrequent? protocols

/-- The user should choose: no venue is named, and more than one that serves the intent is in use or
more than two serve it at all. -/
def hasChoice (intent : Intent) (named : Bool) (used : List String) : Bool :=
  let viable := serving intent
  let inUse := viable.countP fun v => (used.map Text.lower).contains v.id
  !named && ((1 < viable.length && 1 < inUse) || 2 < viable.length)

/-! ## Lemmas -/

theorem id_injective {v v' : Venue} (h : v.id = v'.id) : v = v' := by
  cases v <;> cases v' <;> first | rfl | exact absurd h (by decide)

end Venue

end Teller
