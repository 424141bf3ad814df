import SheetActions.Json.Basic
import SheetActions.Number.Numeral
import SheetActions.Text.Units

/-! Reading JSON.

The reader accepts JSON texts and, beside them, `NaN` and the infinities as
numbers. It works on the rest of the text and reports where it stopped by the
number of characters left, which `parse` turns into an offset. A string that is
never closed is reported at its opening quote, a bad escape at the backslash or
behind it, anything else at the first character that does not fit. -/
namespace SheetActions.Json

/-- Why a text was not read. -/
inductive Stop where
  /-- The text does not fit; so many characters were left. -/
  | misfit (left : Nat)
  /-- An integer has more digits than are accepted. -/
  | numeralTooLong
deriving DecidableEq, Repr

/-- The reader stops in front of these characters. -/
def stopAt {α : Type} (l : List Char) : Except Stop α :=
  .error (.misfit l.length)

def isSpace (c : Char) : Bool :=
  c = ' ' || c = '\t' || c = '\n' || c = '\r'

def skipSpace (l : List Char) : List Char :=
  l.dropWhile isSpace

/-! ### Strings -/

/-- The number written by four hexadecimal digits. -/
def hexQuad? (a b c d : Char) : Option Nat := do
  let a ← Text.hexValue? a
  let b ← Text.hexValue? b
  let c ← Text.hexValue? c
  let d ← Text.hexValue? d
  return ((a * 16 + b) * 16 + c) * 16 + d

/-- The character that a letter behind a backslash stands for. -/
def unescape? : Char → Option Char
  | '"' => some '"'
  | '\\' => some '\\'
  | '/' => some '/'
  | 'b' => some '\x08'
  | 'f' => some '\x0c'
  | 'n' => some '\n'
  | 'r' => some '\r'
  | 't' => some '\t'
  | _ => none

/-- A character written by its unit or by two units, behind `\u`. -/
def unitEscape (l : List Char) : Except Stop (Char × List Char) :=
  match l with
  | a :: b :: c :: d :: e :: r =>
    match hexQuad? a b c d with
    | none => .error (.misfit (l.length + 1))
    | some high =>
      match e :: r with
      | '\\' :: 'u' :: a' :: b' :: c' :: d' :: e' :: r' =>
        match hexQuad? a' b' c' d' with
        | some low =>
          if Text.isHighSurrogate high && Text.isLowSurrogate low then
            .ok (Text.ofSurrogates high low, e' :: r')
          else .ok (Text.ofUnit high, e :: r)
        | none => .ok (Text.ofUnit high, e :: r)
      | _ => .ok (Text.ofUnit high, e :: r)
  | _ => .error (.misfit (l.length + 1))

/-- The rest of a string, whose characters so far are given from the last one on; `fuel`
bounds the characters to come. A string that is never closed has no stop of its own. -/
def stringRest : Nat → List Char → List Char → Except (Option Stop) (String × List Char)
  | 0, _, _ => .error none
  | _ + 1, _, [] => .error none
  | fuel + 1, done, c :: r =>
    if c = '"' then .ok (String.ofList done.reverse, r)
    else if c = '\\' then
      match r with
      | [] => .error none
      | 'u' :: r =>
        match unitEscape r with
        | .ok (c, r) => stringRest fuel (c :: done) r
        | .error stop => .error (some stop)
      | letter :: r' =>
        match unescape? letter with
        | some c => stringRest fuel (c :: done) r'
        | none => .error (some (.misfit (r.length + 1)))
    else if c.toNat < 0x20 then .error (some (.misfit (r.length + 1)))
    else stringRest fuel (c :: done) r

/-- A string, from behind its opening quote. -/
def readString (fuel : Nat) (l : List Char) : Except Stop (String × List Char) :=
  (stringRest fuel [] l).mapError fun stop => stop.getD (.misfit (l.length + 1))

/-! ### Numbers -/

/-- The exponent of a number, if one is there: its value and the rest. -/
def exponentPart? : List Char → Option (Int × List Char)
  | c :: r =>
    let (negative, r) := Numeral.splitSign r
    let digits := r.takeWhile Char.isDigit
    if (c = 'e' ∨ c = 'E') ∧ digits ≠ [] then
      some (if negative then -(natOfDigits digits : Int) else natOfDigits digits,
        r.dropWhile Char.isDigit)
    else none
  | [] => none

/-- The digits behind a point, if there are any, and the rest. -/
def pointPart? : List Char → Option (List Char × List Char)
  | '.' :: r =>
    let digits := r.takeWhile Char.isDigit
    if digits.isEmpty then none else some (digits, r.dropWhile Char.isDigit)
  | _ => none

/-- The digits in front of the point: a zero alone, or digits that start with another. -/
def wholePart : List Char → List Char × List Char
  | '0' :: r => (['0'], r)
  | l => (l.takeWhile Char.isDigit, l.dropWhile Char.isDigit)

def readNumber (l : List Char) : Except Stop (Json × List Char) :=
  let (negative, r) := match l with
    | '-' :: r => (true, r)
    | _ => (false, l)
  let (whole, r) := wholePart r
  if whole.isEmpty then stopAt l
  else
    let point := pointPart? r
    let (part, r₁) := point.getD ([], r)
    let exponent := exponentPart? r₁
    let (e, r₂) := exponent.getD (0, r₁)
    if point.isSome || exponent.isSome then
      .ok (.float (Binary64.ofDecimal negative (natOfDigits (whole ++ part)) (e - part.length)), r₂)
    else if whole.length > Numeral.digitLimit then .error .numeralTooLong
    else .ok (.integer (if negative then -(natOfDigits whole : Int) else natOfDigits whole), r)

/-! ### Values -/

/-- The names of values that have one, longest first where one starts another. -/
def constants : List (List Char × Json) :=
  [("null".toList, .null), ("true".toList, .boolean true), ("false".toList, .boolean false),
   ("NaN".toList, .float .nan), ("Infinity".toList, .float (.infinity false)),
   ("-Infinity".toList, .float (.infinity true))]

/-- A named value or a number. -/
def readAtom (l : List Char) : Except Stop (Json × List Char) :=
  match constants.findSome? fun c => (c.1.isPrefixOf? l).map fun r => (c.2, r) with
  | some found => .ok found
  | none => readNumber l

mutual

/-- A value, from its first character on. -/
def readValue : Nat → List Char → Except Stop (Json × List Char)
  | fuel + 1, '"' :: r => do
    let (s, r) ← readString fuel r
    return (.text s, r)
  | fuel + 1, '[' :: r =>
    match skipSpace r with
    | ']' :: r => .ok (.array [], r)
    | r => do
      let (items, r) ← readItems fuel r
      return (.array items, r)
  | fuel + 1, '{' :: r =>
    match skipSpace r with
    | '}' :: r => .ok (.object [], r)
    | r => do
      let (fields, r) ← readFields fuel r
      return (ofFields fields, r)
  | _, l => readAtom l

/-- The items of an array up to its end. -/
def readItems : Nat → List Char → Except Stop (List Json × List Char)
  | 0, l => stopAt l
  | fuel + 1, l => do
    let (item, r) ← readValue fuel l
    match skipSpace r with
    | ']' :: r => return ([item], r)
    | ',' :: r =>
      let (items, r) ← readItems fuel (skipSpace r)
      return (item :: items, r)
    | r => stopAt r

/-- The fields of an object up to its end. -/
def readFields : Nat → List Char → Except Stop (List (String × Json) × List Char)
  | fuel + 1, '"' :: r => do
    let (name, r) ← readString fuel r
    match skipSpace r with
    | ':' :: r =>
      let (value, r) ← readValue fuel (skipSpace r)
      match skipSpace r with
      | '}' :: r => return ([(name, value)], r)
      | ',' :: r =>
        let (fields, r) ← readFields fuel (skipSpace r)
        return ((name, value) :: fields, r)
      | r => stopAt r
    | r => stopAt r
  | _, l => stopAt l

end

/-- Why a text is not JSON. -/
inductive ReadError where
  /-- The reader stopped at this offset. -/
  | misfit (offset : Nat)
  | numeralTooLong
deriving DecidableEq, Repr

/-- Reads a text that is one JSON value between optional white space. -/
def parse (s : String) : Except ReadError Json :=
  let l := s.toList
  let result : Except Stop Json := do
    let (value, r) ← readValue (2 * l.length + 2) (skipSpace l)
    match skipSpace r with
    | [] => return value
    | r => stopAt r
  match result with
  | .ok value => .ok value
  | .error (.misfit left) => .error (.misfit (l.length - left))
  | .error .numeralTooLong => .error .numeralTooLong

end SheetActions.Json
