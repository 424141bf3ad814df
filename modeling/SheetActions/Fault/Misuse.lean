/-! Values of the wrong kind.

Parts of the library that take values of any kind, because they come as JSON, refuse
those that they have no use for. Kinds are known by the names that messages give
them. -/
namespace SheetActions

inductive Misuse where
  /-- A position that no list can have. -/
  | positionTooLarge
  | positionOfKind (kind : String)
  /-- A value that cannot be added to an index. -/
  | addendOfKind (kind : String)
  /-- An integer that is to become a floating-point number. -/
  | integerTooLarge
  | heightOfKind
  /-- Required arguments of a failure with a label are missing. -/
  | missingArguments (label : String) (names : List String)
  | unknownArgument (label name : String)
  | detailsOfKind (kind : String)
  | formatsOfKind (kind : String)
  | formatOfKind (kind : String)
deriving DecidableEq, Repr

namespace Misuse

def label : Misuse → String
  | .positionTooLarge => "IndexError"
  | .integerTooLarge => "OverflowError"
  | .formatOfKind _ => "AttributeError"
  | _ => "TypeError"

/-- Names between apostrophes, with `and` in front of the last one. -/
def listing (names : List String) : String :=
  match names.map fun name => "'" ++ name ++ "'" with
  | [] => ""
  | [name] => name
  | [name, last] => name ++ " and " ++ last
  | names => ", ".intercalate names.dropLast ++ ", and " ++ names.getLast?.getD ""

def message : Misuse → String
  | .positionTooLarge => "cannot fit 'int' into an index-sized integer"
  | .positionOfKind kind => "tuple indices must be integers or slices, not " ++ kind
  | .addendOfKind kind => "unsupported operand type(s) for +: 'int' and '" ++ kind ++ "'"
  | .integerTooLarge => "int too large to convert to float"
  | .heightOfKind => "expected <class 'float'>"
  | .missingArguments label names =>
    label ++ ".__init__() missing " ++ toString names.length ++ " required positional argument"
      ++ (if names.length = 1 then "" else "s") ++ ": " ++ listing names
  | .unknownArgument label name =>
    label ++ ".__init__() got an unexpected keyword argument '" ++ name ++ "'"
  | .detailsOfKind kind => "'" ++ kind ++ "' object is not a mapping"
  | .formatsOfKind kind => "'" ++ kind ++ "' object is not iterable"
  | .formatOfKind kind => "'" ++ kind ++ "' object has no attribute 'lstrip'"

end Misuse

end SheetActions
