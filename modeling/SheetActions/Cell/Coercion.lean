import SheetActions.Cell.Value
import SheetActions.Fault

/-! From the text of a token to the value of a cell.

An integer numeral becomes an integer, a decimal numeral a floating-point number,
and any other text stays as it is. Only the length of an integer numeral is
limited. -/
namespace SheetActions

/-- The digits of an integer numeral that is longer than accepted, counted. -/
def Numeral.excess? : Numeral → Option Nat
  | .integer _ digits => if digits.length > digitLimit then some digits.length else none
  | .decimal .. => none

def Number.toValue : Number → Value
  | .integer n => .integer n
  | .float x => .float x

/-- The value of a token. -/
def coerce (token : String) : Except Fault Value :=
  match Numeral.read? token.toList with
  | none => .ok (.text token)
  | some numeral =>
    match numeral.excess? with
    | some count => .error (.breakdown (.numeralTooLong count))
    | none => .ok numeral.value.toValue

/-- The number that a text denotes, if it is a numeral. -/
def numberOf (text : String) : Except Fault (Option Number) :=
  (coerce text).map Value.number?

end SheetActions
