import Teller.Amount.Basic
import Teller.Number.Conversion
import Teller.Text.Case

/-!
# Reading amounts

Six strategies read an amount from a text: an exact number, a number with a unit, a percentage, a
relative word such as "half", spelled-out numbers, and expressions such as "around 500". They are
tried in this order, and the first value in the permitted range is taken; values out of range are
remembered for the report of a failure.

    search_eq_ok         what is found is the candidate of a strategy, and in range
    read_inRange         an amount that was read is in range
-/

namespace Teller.Amount

open Teller.Text

/-- The ways to read an amount. -/
inductive Strategy where
  | exact | unit | percentage | relative | spelled | expression
  deriving DecidableEq, Repr

namespace Strategy

/-- All strategies in the order in which they are tried. -/
def order : List Strategy := [exact, unit, percentage, relative, spelled, expression]

def name : Strategy → String
  | exact => "exact"
  | unit => "unit"
  | percentage => "percentage"
  | relative => "relative"
  | spelled => "natural_language"
  | expression => "expression"

/-- How far a strategy is trusted. -/
def confidence : Strategy → Float
  | exact => 1.0
  | unit => 0.95
  | percentage => 0.9
  | relative => 0.85
  | spelled => 0.8
  | expression => 0.7

end Strategy

/-- Another amount that the text may mean. -/
structure Alternative where
  value : Float
  interpretation : String

/-- What a strategy makes of a text. -/
structure Candidate where
  value : Float
  unit : Option String := none
  alternatives : List Alternative := []

/-! ## Numerals -/

/-- The text in which amounts are looked for: without margins and commas, in lower case, with single
spaces. -/
def normalize (raw : String) : List Char :=
  squeeze ((lower (trim raw)).toList.filter (· ≠ ','))

/-- The value of a numeral with the given digits before and after the point. -/
def numeralValue (whole fraction : List Char) : Float :=
  Number.Decimal.toFloat
    ⟨Number.ofDigits ((whole ++ fraction).map Number.latinDigit), -(fraction.length : Int)⟩

/-- The longest numeral at the start of a text, its value and what follows it. A point belongs to
the numeral only if a digit follows. -/
def numeral? (cs : List Char) : Option (Float × List Char) :=
  let whole := cs.takeWhile isDigit
  if whole.isEmpty then none
  else match cs.dropWhile isDigit with
    | '.' :: rest =>
      let fraction := rest.takeWhile isDigit
      if fraction.isEmpty then some (numeralValue whole [], '.' :: rest)
      else some (numeralValue whole fraction, rest.dropWhile isDigit)
    | rest => some (numeralValue whole [], rest)

/-! ## Exact numbers and units -/

/-- A numeral and nothing else. -/
def numeralOnly? (text : List Char) : Option Candidate :=
  match numeral? text with
  | some (value, []) => some { value }
  | _ => none

/-- What a unit multiplies by. -/
def unitFactor? : Char → Option Float
  | 'k' => some 1e3
  | 'm' => some 1e6
  | 'b' => some 1e9
  | 't' => some 1e12
  | _ => none

/-- A numeral with or without a unit. -/
def withUnit? (text : List Char) : Option Candidate :=
  (numeral? text).bind fun (value, rest) =>
    match rest.dropWhile isBlank with
    | [] => some { value := value * 1 }
    | [unit] => (unitFactor? unit).map fun factor =>
        { value := value * factor, unit := some (String.singleton unit) }
    | _ => none

/-! ## Shares -/

/-- The text is a mark of percentages alone, or one followed by "of". -/
def isPercentMark (rest : List Char) : Bool :=
  ["%", "percent", "pct", "percentage"].any (fun mark => rest == mark.toList) ||
    ["%", "percent"].any fun mark =>
      mark.toList.isPrefixOf rest &&
        (let after := rest.drop mark.length
         (after.head?.any isBlank) && standsAt ['o', 'f'] (after.dropWhile isBlank))

/-- The number of a percentage. -/
def percent? (text : List Char) : Option Float :=
  (numeral? text).bind fun (value, rest) =>
    if isPercentMark (rest.dropWhile isBlank) then some value else none

/-- What the same percentage is of other bases. -/
def percentageAlternatives (percent : Float) (base : Base) (bases : Bases) : List Alternative :=
  let share (sum : Float) (label : String) : Alternative :=
    ⟨sum * percent / 100, s!"{Number.plain percent}% of {label}"⟩
  let portfolio :=
    match bases.get? .portfolio with
    | some sum =>
      if base = .balance && bases.balance != some sum then [share sum "total portfolio"] else []
    | none => []
  let position :=
    match bases.get? .position with
    | some sum => if base ≠ .position then [share sum "current position"] else []
    | none => []
  portfolio ++ position

/-- A percentage between 0 and 100 of the first base there is. -/
def percentage? (config : Config) (bases : Option Bases) (text : List Char) : Option Candidate := do
  let bases ← bases
  let percent ← percent? text
  if !config.percentages || percent < 0 || 100 < percent then none
  else
    let (base, sum) ← bases.first? Base.order
    return {
      value := sum * percent / 100
      unit := some "%"
      alternatives := percentageAlternatives percent base bases }

/-- The words for shares; the first one that occurs decides. -/
def relativeWords : List (String × Float) :=
  [("all", 1.0), ("everything", 1.0), ("entire", 1.0), ("whole", 1.0), ("complete", 1.0),
    ("half", 0.5), ("quarter", 0.25), ("third", 0.333), ("most", 0.8), ("majority", 0.6),
    ("some", 0.3), ("little", 0.1), ("small", 0.1)]

/-- The order of bases for a text, which may mention the portfolio or a position. -/
def baseOrder (text : List Char) : List Base :=
  if occursIn "portfolio".toList text then [.portfolio, .balance, .position]
  else if occursIn "position".toList text then [.position, .balance, .portfolio]
  else Base.order

/-- A share named by a word. The same share of every other base of a different size is an
alternative. -/
def relative? (config : Config) (bases : Option Bases) (text : List Char) : Option Candidate := do
  let bases ← bases
  let (word, fraction) ← relativeWords.find? fun (word, _) => standsFrom word.toList true text
  if !config.relative then none
  else
    let (base, sum) ← bases.first? (baseOrder text)
    return {
      value := sum * fraction
      alternatives := Base.order.filterMap fun other =>
        match bases.get? other with
        | some otherSum =>
          if other ≠ base && otherSum != sum then
            some ⟨otherSum * fraction, s!"{word} of {other.label}"⟩
          else none
        | none => none }

/-! ## Spelled-out numbers -/

/-- The values of number words. -/
def numberWords : List (String × Nat) :=
  [("zero", 0), ("one", 1), ("two", 2), ("three", 3), ("four", 4), ("five", 5), ("six", 6),
    ("seven", 7), ("eight", 8), ("nine", 9), ("ten", 10), ("eleven", 11), ("twelve", 12),
    ("thirteen", 13), ("fourteen", 14), ("fifteen", 15), ("sixteen", 16), ("seventeen", 17),
    ("eighteen", 18), ("nineteen", 19), ("twenty", 20), ("thirty", 30), ("forty", 40),
    ("fifty", 50), ("sixty", 60), ("seventy", 70), ("eighty", 80), ("ninety", 90),
    ("hundred", 100), ("thousand", 1000), ("million", 1000000), ("billion", 1000000000)]

/-- A spelled-out number that is being read: the finished groups and the group at hand. -/
structure Tally where
  total : Nat := 0
  current : Nat := 0
  deriving DecidableEq, Repr

/-- The tally after one more number word: "hundred" multiplies the group at hand, greater words
finish it, and smaller ones add to it. -/
def Tally.add (t : Tally) (value : Nat) : Tally :=
  if value = 100 then { t with current := t.current * 100 }
  else if 1000 ≤ value then ⟨t.total + t.current * value, 0⟩
  else { t with current := t.current + value }

/-- The number that the number words of a text spell; other words are passed over. -/
def spelledValue (text : List Char) : Nat :=
  let words := (pieces (fun c => isBlank c || c == '-') text).filterMap fun word =>
    numberWords.lookup (String.ofList word)
  let t := words.foldl Tally.add {}
  t.total + t.current

/-- A positive spelled-out number. -/
def spelled? (text : List Char) : Except Fault (Option Candidate) :=
  let value := spelledValue text
  if value = 0 then .ok none
  else (Number.realOf value).map fun value => some { value }

/-! ## Expressions -/

/-- Phrases that stand for a round number, wherever they occur. -/
def roundPhrases : List (List String × Float) :=
  [(["a thousand"], 1000), (["few hundred"], 300), (["several hundred"], 500),
    (["couple hundred", "couple of hundred"], 200)]

/-- The numeral after the word "around", "about" or "roughly" at the start of a text. -/
def hedgedHere? (text : List Char) : Option Float :=
  (["around", "about", "roughly"].find? fun word => word.toList.isPrefixOf text).bind fun word =>
    match text.drop word.length with
    | c :: rest => if isBlank c then (numeral? (rest.dropWhile isBlank)).map (·.1) else none
    | [] => none

/-- The first hedged numeral in a text. -/
def hedged? : List Char → Option Float
  | [] => none
  | c :: rest => (hedgedHere? (c :: rest)).or (hedged? rest)

/-- The value of the first expression in a text. The long s counts as an s. -/
def expressionValue? (text : List Char) : Option Float :=
  let plain := text.map fun c => if c == 'ſ' then 's' else c
  match roundPhrases.find? fun (phrases, _) => phrases.any fun p => occursIn p.toList plain with
  | some (_, value) => some value
  | none => (hedged? text).filter (0 < ·)

/-- An expression, with a lower and a higher estimate. -/
def expression? (text : List Char) : Option Candidate :=
  (expressionValue? text).map fun value =>
    { value
      alternatives :=
        [⟨value * 0.8, "Conservative estimate"⟩, ⟨value * 1.2, "Liberal estimate"⟩] }

/-! ## The search -/

/-- What a strategy makes of a normalized text. -/
def candidate? (config : Config) (bases : Option Bases) (text : List Char) :
    Strategy → Except Fault (Option Candidate)
  | .exact => .ok (numeralOnly? text)
  | .unit => .ok (withUnit? text)
  | .percentage => .ok (percentage? config bases text)
  | .relative => .ok (relative? config bases text)
  | .spelled => spelled? text
  | .expression => .ok (expression? text)

/-- An amount that was read. -/
structure Reading where
  input : String
  strategy : Strategy
  candidate : Candidate

def Reading.value (r : Reading) : Float := r.candidate.value

def Reading.normalized (r : Reading) : String := Number.plain r.value

/-- A candidate that was out of range. -/
structure Rejection where
  strategy : Strategy
  value : Float
  fault : RangeFault

/-- Why no amount was read. -/
inductive ReadError where
  /-- There is no text. -/
  | empty
  /-- No strategy has a candidate in range. -/
  | unreadable (text : List Char) (rejected : List Rejection)
  /-- A strategy broke off. -/
  | broken (fault : Fault)

/-- The first candidate in range, or all candidates out of range. -/
def search (config : Config) (candidate : Strategy → Except Fault (Option Candidate)) :
    List Strategy → Except Fault (Except (List Rejection) (Strategy × Candidate))
  | [] => .ok (.error [])
  | s :: rest => do
    match ← candidate s with
    | none => search config candidate rest
    | some c =>
      match rangeFault? config c.value with
      | none => return .ok (s, c)
      | some fault =>
        match ← search config candidate rest with
        | .ok found => return .ok found
        | .error rejected => return .error (⟨s, c.value, fault⟩ :: rejected)

/-- Reads an amount; without a text there is nothing to read. -/
def read (config : Config) (bases : Option Bases) (raw : String) : Except ReadError Reading :=
  let text := normalize raw
  if text.isEmpty then .error .empty
  else match search config (candidate? config bases text) Strategy.order with
    | .error fault => .error (.broken fault)
    | .ok (.error rejected) => .error (.unreadable text rejected)
    | .ok (.ok (strategy, candidate)) => .ok { input := raw, strategy, candidate }

/-! ## Lemmas -/

theorem search_eq_ok {config : Config} {candidate : Strategy → Except Fault (Option Candidate)}
    {order : List Strategy} {s : Strategy} {c : Candidate}
    (h : search config candidate order = .ok (.ok (s, c))) :
    s ∈ order ∧ candidate s = .ok (some c) ∧ rangeFault? config c.value = none := by
  induction order with
  | nil => simp [search] at h
  | cons first rest ih =>
    unfold search at h
    cases hc : candidate first with
    | error fault => simp [hc, bind, Except.bind] at h
    | ok found =>
      simp only [hc, bind, Except.bind] at h
      cases found with
      | none =>
        obtain ⟨hs, hr⟩ := ih h
        exact ⟨List.mem_cons_of_mem _ hs, hr⟩
      | some c' =>
        cases hf : rangeFault? config c'.value with
        | none =>
          simp only [hf, pure, Except.pure, Except.ok.injEq, Prod.mk.injEq] at h
          obtain ⟨rfl, rfl⟩ := h
          exact ⟨List.mem_cons_self, hc, hf⟩
        | some fault =>
          simp only [hf] at h
          cases hr : search config candidate rest with
          | error fault => simp [hr] at h
          | ok found =>
            cases found with
            | error rejected => simp [hr, pure, Except.pure] at h
            | ok found =>
              simp only [hr, pure, Except.pure, Except.ok.injEq] at h
              subst h
              obtain ⟨hs, hrest⟩ := ih hr
              exact ⟨List.mem_cons_of_mem _ hs, hrest⟩

theorem read_inRange {config : Config} {bases : Option Bases} {raw : String} {r : Reading}
    (h : read config bases raw = .ok r) : rangeFault? config r.value = none := by
  simp only [read] at h
  split at h
  · cases h
  · split at h
    · cases h
    · cases h
    · next found =>
      cases h
      exact (search_eq_ok found).2.2

/-! ## Reports -/

def suggestions (config : Config) (bases : Option Bases) (text : List Char) : List String :=
  ["Try exact numbers like \"100\" or \"1500.50\""] ++
    (if text.any ['k', 'm', 'b', 't'].contains then []
      else ["Use units like \"1.5k\" for 1,500 or \"2m\" for 2,000,000"]) ++
    (if config.percentages && bases.isSome then
      ["Try percentages like \"50%\" or \"25 percent\""] else []) ++
    (if config.relative && bases.isSome then
      ["Try relative amounts like \"half\", \"all\", or \"quarter\""] else [])

/-- A rejected candidate in the details of a failure. -/
def Rejection.document (r : Rejection) : Document :=
  .record [("strategy", .text r.strategy.name), ("value", .real r.value),
    ("code", .text r.fault.code.name)]

/-- The failure to read the given input. -/
def ReadError.failure (config : Config) (bases : Option Bases) (input : Option String) :
    ReadError → Failure
  | empty => .of .amountParsing .invalidAmountInput "Amount input is empty"
  | unreadable text rejected =>
    .of .amountParsing .amountParsingFailed ("Could not parse amount: " ++ input.getD "None")
      [("input", .text? input), ("suggestions", .texts (suggestions config bases text)),
        ("rejected", .listOf Rejection.document rejected)]
  | broken fault =>
    .of .amountParsing .parsingError "Unexpected error while parsing amount"
      [("input", .text? input), ("original_error", .text fault.describe)]

/-- Reads an amount that may be missing, and reports a failure. -/
def parse (config : Config) (bases : Option Bases) (input : Option String) :
    Except Failure Reading :=
  (read config bases (input.getD "")).mapError (·.failure config bases input)

def Reading.document (r : Reading) : Document :=
  .record [("value", .real r.value), ("normalized", .text r.normalized),
    ("original_input", .text r.input), ("confidence", .real r.strategy.confidence),
    ("strategy", .text r.strategy.name), ("unit", .text? r.candidate.unit),
    ("alternatives", .listOf (fun a : Alternative =>
      .record [("value", .real a.value), ("interpretation", .text a.interpretation)])
      r.candidate.alternatives)]

end Teller.Amount
