import SheetActions.Json.Reader
import SheetActions.Text.Units

/-! Bodies of requests.

A body is JSON in one of the Unicode encodings. Which one it is shows in the zeros
among its first four bytes, since JSON starts with ASCII characters; a mark in front
of the text does not belong to it. -/
namespace SheetActions.Http

/-- The ways to write characters as bytes. -/
inductive Encoding where
  | utf8
  | utf16 (bigEndian : Bool)
  | utf32 (bigEndian : Bool)
deriving DecidableEq, Repr

namespace Encoding

/-- The encoding that the zeros at the front of some bytes tell. -/
def detect : List UInt8 → Encoding
  | a :: b :: c :: d :: _ =>
    if a = 0 then if b = 0 then .utf32 true else .utf16 true
    else if b = 0 then if c = 0 ∧ d = 0 then .utf32 false else .utf16 false
    else .utf8
  | [a, b] => if a = 0 then .utf16 true else if b = 0 then .utf16 false else .utf8
  | _ => .utf8

/-- The numbers that are written by so many bytes each, if the bytes come out even. -/
def numbers? (width : Nat) (bigEndian : Bool) (bytes : List UInt8) : Option (List Nat) :=
  let groups := (List.range (bytes.length / width)).map fun i => (bytes.drop (i * width)).take width
  let value (group : List UInt8) : Nat := group.foldl (fun n b => 256 * n + b.toNat) 0
  if bytes.length % width ≠ 0 then none
  else some (groups.map fun group => value (if bigEndian then group else group.reverse))

/-- The text that is written in an encoding. -/
def decode? (e : Encoding) (text : String) : Option (List Char) :=
  match e with
  | .utf8 => some text.toList
  | .utf16 bigEndian => (numbers? 2 bigEndian text.toUTF8.toList).map Text.ofUnits
  | .utf32 bigEndian =>
    (numbers? 4 bigEndian text.toUTF8.toList).bind fun codes =>
      if codes.all (· < 0x110000) then some (codes.map Text.ofUnit) else none

end Encoding

/-- A mark that may stand in front of a text and does not belong to it. -/
def byteOrderMark : Char := Char.ofNat 0xFEFF

/-- Drops the mark in front of a text. -/
def withoutMark : List Char → List Char
  | c :: r => if c = byteOrderMark then r else c :: r
  | [] => []

/-- Why a body is not read. -/
inductive BodyFlaw where
  /-- The text does not fit at an offset. -/
  | misfit (offset : Nat)
  /-- It is no text, or a numeral in it is too long. -/
  | unreadable
deriving DecidableEq, Repr

/-- Reads a body, given by the characters that its bytes are in UTF-8; an empty one is no
body. -/
def readBody (text : String) : Except BodyFlaw (Option Json) :=
  if text.isEmpty then .ok none
  else
    let encoding := Encoding.detect (text.toUTF8.toList.take 4)
    match encoding.decode? text with
    | none => .error .unreadable
    | some l =>
      let l := if encoding = .utf8 then withoutMark l else l
      match Json.parse (String.ofList l) with
      | .ok j => .ok (some j)
      | .error (.misfit offset) => .error (.misfit offset)
      | .error .numeralTooLong => .error .unreadable

end SheetActions.Http
