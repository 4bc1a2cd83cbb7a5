import Teller.Number.Conversion

/-!
# Time

A reading of the clock is a number of seconds. Times that are reported are whole milliseconds or
whole seconds; the rest is cut off.
-/

namespace Teller.Clock

def milliseconds (seconds : Float) : Except Fault Int := Number.wholeOf (seconds * 1000)

def wholeSeconds (seconds : Float) : Except Fault Int := Number.wholeOf seconds

def elapsed (start finish : Float) : Except Fault Int := Number.wholeOf ((finish - start) * 1000)

/-! ## The calendar -/

structure Date where
  year : Int
  month : Nat
  day : Nat
  deriving DecidableEq, Repr

/-- The date that lies so many days after the first of January 1970. Years begin in March here, so
that a leap day is the last day of its year, and eras of 400 years repeat. -/
def dateOf (days : Int) : Date :=
  let shifted := days + 719468
  let era := shifted.fdiv 146097
  let dayOfEra := (shifted.fmod 146097).toNat
  let yearOfEra := (dayOfEra - dayOfEra / 1460 + dayOfEra / 36524 - dayOfEra / 146096) / 365
  let dayOfYear := dayOfEra - (365 * yearOfEra + yearOfEra / 4 - yearOfEra / 100)
  let marchMonth := (5 * dayOfYear + 2) / 153
  let day := dayOfYear - (153 * marchMonth + 2) / 5 + 1
  let month := if marchMonth < 10 then marchMonth + 3 else marchMonth - 9
  ⟨yearOfEra + era * 400 + (if month ≤ 2 then 1 else 0), month, day⟩

/-- A number with leading zeros. -/
def padded (width n : Nat) : String :=
  let digits := Number.digitsOf n
  String.ofList (List.replicate (width - digits.length) '0' ++ digits)

/-- The microseconds of a reading: its whole seconds, and the rest rounded to microseconds. -/
def microseconds (seconds : Float) : Int :=
  let whole := (Number.truncate? seconds).getD 0
  whole * 1000000 + Number.nearest ((seconds - Float.ofInt whole) * 1000000)

/-- A reading as date and time of day, with microseconds unless they are zero. -/
def stamp (seconds : Float) : String :=
  let time := microseconds seconds
  let whole := time.fdiv 1000000
  let fraction := (time.fmod 1000000).toNat
  let date := dateOf (whole.fdiv 86400)
  let second := (whole.fmod 86400).toNat
  padded 4 date.year.toNat ++ "-" ++ padded 2 date.month ++ "-" ++ padded 2 date.day ++ "T" ++
    padded 2 (second / 3600) ++ ":" ++ padded 2 (second / 60 % 60) ++ ":" ++ padded 2 (second % 60) ++
    (if fraction = 0 then "" else "." ++ padded 6 fraction) ++ "Z"

end Teller.Clock
