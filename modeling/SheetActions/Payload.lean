import SheetActions.Fault
import SheetActions.Text.Split

/-! Delimited data.

A payload is a text that is split into rows at one delimiter and each row into
tokens at another; tokens are trimmed. Rows may differ in length. -/
namespace SheetActions

/-- Rows of trimmed tokens. -/
structure Payload where
  rows : List (List String)
deriving DecidableEq

namespace Payload

/-- The pieces of a text at a delimiter, which must not be empty. -/
def split (delimiter text : String) : Except Fault (List String) :=
  match Text.split? delimiter text with
  | some pieces => .ok pieces
  | none => .error (.breakdown .emptyDelimiter)

/-- The trimmed tokens of a row. -/
def tokens (delimiter row : String) : Except Fault (List String) :=
  (split delimiter row).map fun pieces => pieces.map Text.trim

/-- The rows of a text. -/
def parse (rowDelimiter columnDelimiter text : String) : Except Fault Payload := do
  let rows ← split rowDelimiter text
  let rows ← rows.mapM (tokens columnDelimiter)
  return ⟨rows⟩

def rowCount (p : Payload) : Nat := p.rows.length

/-- The number of tokens of the widest row. -/
def columnCount (p : Payload) : Nat :=
  p.rows.foldl (fun w row => max w row.length) 0

end Payload

end SheetActions
