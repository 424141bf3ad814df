/-! Texts in code units of sixteen bits.

A character beyond the first 65536 takes two units, a high and a low surrogate. A
surrogate without its partner stands for no character, but a text that was read can hold
one. In its place is a stand-in: one of the last private characters, which mean nothing of
their own. Codes in texts are written in hexadecimal digits. -/
namespace SheetActions.Text

/-- What is read where no character can be. -/
def replacementChar : Char := Char.ofNat 0xFFFD

def isHighSurrogate (n : Nat) : Bool := 0xD800 ≤ n && n < 0xDC00

def isLowSurrogate (n : Nat) : Bool := 0xDC00 ≤ n && n < 0xE000

/-- The first of the stand-ins, and how far they are behind their surrogates. -/
def firstStandIn : Nat := 0x10F000

def standInOffset : Nat := firstStandIn - 0xD800

/-- The surrogate without its partner that a character stands in for. -/
def surrogate? (c : Char) : Option Nat :=
  if firstStandIn ≤ c.toNat && c.toNat < firstStandIn + 0x800 then some (c.toNat - standInOffset)
  else none

/-- The character of a unit on its own. -/
def ofUnit (n : Nat) : Char :=
  Char.ofNat (if isHighSurrogate n || isLowSurrogate n then n + standInOffset else n)

/-- The character of a high and a low surrogate. -/
def ofSurrogates (high low : Nat) : Char :=
  Char.ofNat (0x10000 + (high - 0xD800) * 0x400 + (low - 0xDC00))

/-- The value of a hexadecimal digit in either case. -/
def hexValue? (c : Char) : Option Nat :=
  if c.isDigit then some (c.toNat - 0x30)
  else if 'a' ≤ c ∧ c ≤ 'f' then some (c.toNat - 0x57)
  else if 'A' ≤ c ∧ c ≤ 'F' then some (c.toNat - 0x37)
  else none

/-- The characters of a list of units. -/
def ofUnits : List Nat → List Char
  | [] => []
  | [n] => [ofUnit n]
  | m :: n :: r =>
    if isHighSurrogate m && isLowSurrogate n then ofSurrogates m n :: ofUnits r
    else ofUnit m :: ofUnits (n :: r)

/-- The number of units of a text. -/
def units16 (s : String) : Nat :=
  s.toList.foldl (fun n c => n + if c.toNat < 0x10000 then 1 else 2) 0

end SheetActions.Text
