import SheetActions.Json.Basic
import SheetActions.Number.Layout
import SheetActions.Text.Quoted

/-! JSON values as messages show them.

Texts are quoted as in other messages, constants are words with a capital letter,
and a comma is followed by a space. A text that is a part of a message stands there
without quotes. Kinds of values have names, and some values say nothing: those that
are empty, zero or false. -/
namespace SheetActions.Json

mutual

def shown : Json → String
  | .null => "None"
  | .boolean b => if b then "True" else "False"
  | .integer n => toString n
  | .float x => x.text
  | .text s => Text.quoted s
  | .array items => "[" ++ ", ".intercalate (shownItems items) ++ "]"
  | .object fields => "\x7b" ++ ", ".intercalate (shownFields fields) ++ "\x7d"

def shownItems : List Json → List String
  | [] => []
  | item :: items => item.shown :: shownItems items

def shownFields : List (String × Json) → List String
  | [] => []
  | (name, value) :: fields => (Text.quoted name ++ ": " ++ value.shown) :: shownFields fields

end

/-- A value as a part of a message. -/
def inMessage : Json → String
  | .text s => s
  | j => j.shown

/-- The name of the kind of a value. -/
def kindName : Json → String
  | .null => "NoneType"
  | .boolean _ => "bool"
  | .integer _ => "int"
  | .float _ => "float"
  | .text _ => "str"
  | .array _ => "list"
  | .object _ => "dict"

/-- Whether a value says anything. -/
def isTruthy : Json → Bool
  | .null => false
  | .boolean b => b
  | .integer n => n ≠ 0
  | .float x => x.toInt? ≠ some 0
  | .text s => !s.isEmpty
  | .array items => !items.isEmpty
  | .object fields => !fields.isEmpty

end SheetActions.Json
