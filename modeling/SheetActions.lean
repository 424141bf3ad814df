import SheetActions.Text.Case
import SheetActions.Text.Quoted
import SheetActions.Text.Split
import SheetActions.Number.Numeral
import SheetActions.Number.WholeText
import SheetActions.Number.Layout
import SheetActions.Json.Reader
import SheetActions.Json.Printer
import SheetActions.Index.Run
import SheetActions.Index.Spec
import SheetActions.Index.Loose
import SheetActions.Cell.Coercion
import SheetActions.Placement
import SheetActions.Table
import SheetActions.Sheet.Entry
import SheetActions.Workbook.Stored
import SheetActions.Workbook.Reading
import SheetActions.Form
import SheetActions.Condition
import SheetActions.SheetNames
import SheetActions.Request
import SheetActions.Fault.Named
import SheetActions.Logging
import SheetActions.Tool.Call
import SheetActions.Http.Service
import SheetActions.Sheet.Height
import SheetActions.Proofs.OpenRows
import SheetActions.Proofs.Writing
import SheetActions.Proofs.Saving
import SheetActions.Proofs.Stages
import SheetActions.Proofs.Adding
import SheetActions.Proofs.Failing
import SheetActions.Proofs.Spelled
import SheetActions.Proofs.Appending
import SheetActions.Proofs.Columns
import SheetActions.Proofs.Within
import SheetActions.Proofs.Alike
import SheetActions.Proofs.InParts
import SheetActions.Proofs.Reopening
import SheetActions.Proofs.Chunks
import SheetActions.Proofs.OneByOne
import SheetActions.Proofs.Faults
import SheetActions.Proofs.Inserting
import SheetActions.Proofs.Breakdowns
import SheetActions.Proofs.Rounding
import SheetActions.Proofs.Operations
import SheetActions.Proofs.Decimals
import SheetActions.Proofs.NumberTexts
import SheetActions.Proofs.StoredNumbers
import SheetActions.Proofs.Moments
import SheetActions.Proofs.Spans
import SheetActions.Proofs.Filed
import SheetActions.Proofs.ReadingBack
import SheetActions.Proofs.ResavedNumbers
import SheetActions.Proofs.ResavedMoments
import SheetActions.Proofs.Resaved
import SheetActions.Proofs.Markup
import SheetActions.Proofs.OverwritingAgain
import SheetActions.Proofs.TimeTexts
import SheetActions.Proofs.Conditions
import SheetActions.Proofs.Searching
import SheetActions.Proofs.Operators
import SheetActions.Proofs.Selecting
import SheetActions.Proofs.Histories
import SheetActions.Proofs.UsedArea
import SheetActions.Proofs.Decoding
import SheetActions.Proofs.Reports
import SheetActions.Proofs.Creating
import SheetActions.Proofs.FileNames
import SheetActions.Proofs.NewWorkbooks
import SheetActions.Proofs.Denoting
import SheetActions.Proofs.Commuting
import SheetActions.Proofs.ToolArguments
import SheetActions.Proofs.StoredTexts
import SheetActions.Proofs.Shifting
import SheetActions.Proofs.Stopping
import SheetActions.Proofs.Gaps
import SheetActions.Proofs.Planning
import SheetActions.Proofs.Gathering
import SheetActions.Proofs.Unread
import SheetActions.Proofs.Keeping
import SheetActions.Proofs.Rows
import SheetActions.Proofs.Rectangles
import SheetActions.Proofs.Spellings
import SheetActions.Proofs.Overflow
import SheetActions.Proofs.FiniteNumbers
import SheetActions.Proofs.Naming
import SheetActions.Proofs.RefusedNames
import SheetActions.Proofs.EmptyDelimiters
import SheetActions.Proofs.NormalForms
