import SheetActions.Number.Layout
import SheetActions.Number.Numeral

/-! Dates, times of day and spans of time, with their texts.

A date is written `YYYY-MM-DD`, a time of day `hh:mm:ss` with six further digits
when it has a fraction of a second, and both together with a `T` between them. A
span counts microseconds and is written in days, hours, minutes and seconds; a
negative span has negative days and a time of day that counts forward.

Days are numbered by the Gregorian calendar, from the first day of the year 1 on, which
has the number 0; only the years up to 9999 have dates here. -/
namespace SheetActions

structure Date where
  year : Nat
  month : Nat
  day : Nat
deriving DecidableEq, Repr

/-- A time of day. -/
structure Clock where
  hour : Nat
  minute : Nat
  second : Nat
  microsecond : Nat
deriving DecidableEq, Repr

/-- The decimal digits of a number, with zeros in front up to a width. -/
def padded (width n : Nat) : String :=
  let digits := Nat.toDigits 10 n
  String.ofList (List.replicate (width - digits.length) '0' ++ digits)

def midnight : Clock := ⟨0, 0, 0, 0⟩

def Date.text (d : Date) : String :=
  padded 4 d.year ++ "-" ++ padded 2 d.month ++ "-" ++ padded 2 d.day

def Clock.text (t : Clock) : String :=
  padded 2 t.hour ++ ":" ++ padded 2 t.minute ++ ":" ++ padded 2 t.second
    ++ (if t.microsecond = 0 then "" else "." ++ padded 6 t.microsecond)

/-- The microseconds of a second and of a day. -/
def secondLength : Nat := 1000000

def dayLength : Nat := 86400 * secondLength

/-- The time of day so many microseconds after midnight. -/
def Clock.ofMicroseconds (n : Nat) : Clock :=
  let seconds := n / secondLength
  ⟨seconds / 3600, seconds / 60 % 60, seconds % 60, n % secondLength⟩

/-- The text of a span of so many microseconds. -/
def spanText (microseconds : Int) : String :=
  let days := Int.fdiv microseconds dayLength
  let rest := Clock.ofMicroseconds (Int.fmod microseconds dayLength).toNat
  let unit := if days.natAbs = 1 then " day, " else " days, "
  (if days = 0 then "" else toString days ++ unit) ++ toString rest.hour ++ ":"
    ++ padded 2 rest.minute ++ ":" ++ padded 2 rest.second
    ++ (if rest.microsecond = 0 then "" else "." ++ padded 6 rest.microsecond)

/-! ### Numbering days -/

def isLeap (year : Nat) : Bool :=
  year % 4 = 0 && (year % 100 ≠ 0 || year % 400 = 0)

/-- The lengths of the months of a year. -/
def monthLengths (year : Nat) : List Nat :=
  [31, if isLeap year then 29 else 28, 31, 30, 31, 30, 31, 31, 30, 31, 30, 31]

/-- The number of days before a year. -/
def daysBefore (year : Nat) : Nat :=
  let y := year - 1
  y * 365 + y / 4 - y / 100 + y / 400

/-- The number of a day. -/
def Date.number (d : Date) : Nat :=
  daysBefore d.year + ((monthLengths d.year).take (d.month - 1)).foldr (· + ·) 0 + (d.day - 1)

/-- The month and the day, from the lengths of the months and the days since the start of
the first of them. -/
def splitMonth (month : Nat) : List Nat → Nat → Nat × Nat
  | [], n => (month, n + 1)
  | length :: lengths, n =>
    if n < length then (month, n + 1) else splitMonth (month + 1) lengths (n - length)

/-- The year that holds a day. An estimate by the mean length of a year is off by at most
one. -/
def yearOf (n : Nat) : Nat :=
  let estimate := n * 400 / 146097 + 1
  if n < daysBefore estimate then estimate - 1
  else if n < daysBefore (estimate + 1) then estimate
  else estimate + 1

/-- The date of the day with a number, in any year. -/
def dateOf (n : Nat) : Date :=
  let year := yearOf n
  let (month, day) := splitMonth 1 (monthLengths year) (n - daysBefore year)
  ⟨year, month, day⟩

/-- The last year that has dates. -/
def lastYear : Nat := 9999

/-- The date of the day with a number, if its year has dates. -/
def Date.ofNumber? (n : Int) : Option Date :=
  if n < 0 ∨ daysBefore (lastYear + 1) ≤ n then none else some (dateOf n.toNat)

/-! ### Reading -/

/-- Digits in fixed places, as a number. -/
def digits? (l : List Char) : Option Nat :=
  if l.isEmpty || !l.all Char.isDigit then none else some (natOfDigits l)

/-- Reads the text of a date. -/
def Date.read? (l : List Char) : Option Date := do
  let year ← digits? (l.take 4)
  let month ← digits? ((l.drop 5).take 2)
  let day ← digits? (l.drop 8)
  return ⟨year, month, day⟩

/-- Reads the text of a time of day. -/
def Clock.read? (l : List Char) : Option Clock := do
  let hour ← digits? (l.take 2)
  let minute ← digits? ((l.drop 3).take 2)
  let second ← digits? ((l.drop 6).take 2)
  let microsecond ← if l.length ≤ 8 then some 0 else digits? (l.drop 9)
  return ⟨hour, minute, second, microsecond⟩

end SheetActions
