import SheetActions.Text.Encoding

/-! Why a path cannot be followed or used. -/
namespace SheetActions

inductive PathFlaw where
  | missing
  | occupied
  | notFolder
  | isFolder
  /-- Nothing may be written there. -/
  | denied
  | nameTooLong
  | holdsNul
  /-- The text of the path cannot be written in UTF-8. -/
  | notEncodable (run : Text.SurrogateRun)
deriving DecidableEq, Repr

/-- The kind of a flaw, as diagnostic texts name it. -/
def PathFlaw.label : PathFlaw → String
  | .missing => "FileNotFoundError"
  | .occupied => "FileExistsError"
  | .notFolder => "NotADirectoryError"
  | .isFolder => "IsADirectoryError"
  | .denied => "PermissionError"
  | .nameTooLong => "OSError"
  | .holdsNul => "ValueError"
  | .notEncodable _ => Text.SurrogateRun.label

/-- The text for a flaw of a path, as the operating system puts it. -/
def PathFlaw.message (path : String) : PathFlaw → String
  | .missing => "[Errno 2] No such file or directory: " ++ Text.quoted path
  | .occupied => "[Errno 17] File exists: " ++ Text.quoted path
  | .notFolder => "[Errno 20] Not a directory: " ++ Text.quoted path
  | .isFolder => "[Errno 21] Is a directory: " ++ Text.quoted path
  | .denied => "[Errno 13] Permission denied: " ++ Text.quoted path
  | .nameTooLong => "[Errno 36] File name too long: " ++ Text.quoted path
  | .holdsNul => "embedded null byte"
  | .notEncodable run => run.message

/-- Whether it is the text of a path that no path can have. -/
def PathFlaw.isOfText : PathFlaw → Bool
  | .holdsNul | .notEncodable _ => true
  | _ => false

/-- Why no path can have a text. -/
def PathFlaw.ofText? (text : String) : Option PathFlaw :=
  match (Text.surrogateRuns text).find? (!·.fitsPath) with
  | some run => some (.notEncodable run)
  | none => if text.toList.contains '\x00' then some .holdsNul else none

end SheetActions
