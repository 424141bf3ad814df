import SheetActions.Cell.Value
import SheetActions.Number.Arithmetic

/-! Dates and times as numbers of days.

A file holds no dates. A date with a time of day is the number of days since the end
of 1899, a time of day alone is a part of a day, and a span is a number of days; that a
number is meant so is told by the style of its cell. The count takes 1900 for a leap
year, so the first two months of that year are a day off. Writing a number and reading
it back gives the time to the millisecond.

There are two ways to read a number: that of the program that changes files
(`TimeStyle.value?`) and that of the readers (`TimeStyle.seen`). -/
namespace SheetActions

/-- How a number in a cell is meant when it is not just a number. -/
inductive TimeStyle where
  | moment
  | span
deriving DecidableEq, Repr

/-- The style of the cell of a value that is a date or a time. -/
def Value.timeStyle? : Value → Option TimeStyle
  | .dateTime .. | .date _ | .clock _ => some .moment
  | .span _ => some .span
  | _ => none

namespace Serial

/-- The day from which days are counted. -/
def epoch : Nat := (Date.mk 1899 12 30).number

/-- The count from which on days are not off. -/
def settledDay : Nat := 60

def secondsOfDay : Nat := 86400

def millisecondsOfDay : Nat := 1000 * secondsOfDay

/-! ### Writing -/

/-- A time of day as a part of a day. -/
def ofClock (t : Clock) : Binary64 :=
  let seconds := Binary64.ofInt (t.hour * 3600 + t.minute * 60 + t.second : Nat)
  (seconds.add (Binary64.ofFraction t.microsecond secondLength)).divide secondsOfDay

def ofMoment (d : Date) (t : Clock) : Binary64 :=
  let days : Int := (d.number : Int) - epoch
  let days := if 0 < days ∧ days ≤ settledDay then days - 1 else days
  (Binary64.ofInt days).add (ofClock t)

def ofSpan (microseconds : Int) : Binary64 :=
  (Binary64.ofFraction microseconds secondLength).divide secondsOfDay

/-- The number for a value that is a date or a time. -/
def ofValue? : Value → Option Binary64
  | .dateTime d t => some (ofMoment d t)
  | .date d => some (ofMoment d midnight)
  | .clock t => some (ofClock t)
  | .span microseconds => some (ofSpan microseconds)
  | _ => none

/-! ### Reading -/

/-- The fraction of a day behind its start. -/
def fractionOf (x : Binary64) (day : Int) : Binary64 :=
  match x.fraction? with
  | some (n, d) => Binary64.ofFraction (n - day * d) d
  | none => x

/-- The date and the time of day so many days and milliseconds after the epoch. -/
def moment? (day milliseconds : Int) : Option (Date × Clock) := do
  let start := day + epoch
  let _ ← Date.ofNumber? start
  let date ← Date.ofNumber? (start + Int.fdiv milliseconds millisecondsOfDay)
  let rest := (Int.fmod milliseconds millisecondsOfDay).toNat
  return (date, Clock.ofMicroseconds (1000 * rest))

/-- What a number means as a moment: a time of day if it is less than a day. -/
def readMoment? (x : Binary64) : Option Value := do
  let day ← x.floor?
  let milliseconds ← (((fractionOf x day).scale secondsOfDay).scale 1000).round?
  if day = 0 ∧ milliseconds < millisecondsOfDay then
    return .clock (Clock.ofMicroseconds (1000 * milliseconds.toNat))
  else
    let isPositive := day > 0 || day = 0 && x.toInt? ≠ some 0
    let day := if isPositive && day < settledDay then day + 1 else day
    let (date, clock) ← moment? day milliseconds
    return .dateTime date clock

/-- The greatest number of days of a span. -/
def spanLimit : Int := 999999999

/-- A span in whole milliseconds. -/
def roundSpan (microseconds : Int) : Int :=
  let rest := Int.fmod microseconds secondLength
  if rest = 0 then microseconds
  else
    let seconds := (Binary64.ofFraction microseconds secondLength).floor?.getD 0
    seconds * secondLength + 1000 * roundQuotient rest.toNat 1000

/-- What a number means as a span. -/
def readSpan? (x : Binary64) : Option Value := do
  let (n, d) ← x.fraction?
  let days := Int.tdiv n d
  let part ← ((Binary64.ofFraction (n - days * d) d).scale dayLength).round?
  let microseconds := roundSpan (days * dayLength + part)
  let days := Int.fdiv microseconds dayLength
  if days < -spanLimit ∨ spanLimit < days then none else some (.span microseconds)

/-! ### What readers see -/

/-- Milliseconds in so many days. -/
def milliseconds (x : Binary64) : Int :=
  ((x.scale millisecondsOfDay).roundAway?).getD 0

/-- Whether a number is smaller than an integer. -/
def isBelow (x : Binary64) (n : Int) : Bool :=
  (x.floor?.map fun day => decide (day < n)).getD false

/-- The milliseconds since the epoch for a moment. -/
def seenMilliseconds (x : Binary64) : Int :=
  milliseconds (if isBelow x settledDay then x.add (Binary64.ofInt 1) else x)

/-- The number of the day of a moment, and the time of day. -/
def seenMoment (x : Binary64) : Int × Clock :=
  let n := seenMilliseconds x
  (Int.fdiv n millisecondsOfDay + epoch,
    Clock.ofMicroseconds (1000 * (Int.fmod n millisecondsOfDay).toNat))

/-- The number of the first day of a year that readers do not count up to. -/
def lastSeenDay : Nat := daysBefore 262143

/-- What a reader takes a number for, as a moment: a time of day if it is less than a day, a
date if it is an integer. -/
def seeMoment (x : Binary64) : Value :=
  let (day, clock) := seenMoment x
  if isBelow x 1 then .clock clock
  else if day ≥ lastSeenDay then .float x
  else
    let date := dateOf day.toNat
    if x.toInt?.isSome then .date date else .dateTime date clock

def seeSpan (x : Binary64) : Value :=
  .span (1000 * milliseconds x)

end Serial

namespace TimeStyle

/-- What a number in a cell of this style means. -/
def value? (style : TimeStyle) (x : Binary64) : Option Value :=
  match style with
  | .moment => Serial.readMoment? x
  | .span => Serial.readSpan? x

/-- What a reader takes a number in a cell of this style for. -/
def seen (style : TimeStyle) (x : Binary64) : Value :=
  match style with
  | .moment => Serial.seeMoment x
  | .span => Serial.seeSpan x

end TimeStyle

end SheetActions
