import SheetActions.Fault
import SheetActions.Files.Directory
import SheetActions.Workbook.Fresh
import SheetActions.Workbook.Reading

/-! Opening the workbooks of a directory.

A workbook is opened to be changed or to be read, and each way accepts some formats,
which a file shows by the suffix of its name, in any case. A file that is there but
holds no such workbook has a reason why it cannot be opened. Some words in a reason
say that the file has the wrong format; any other reason is a failure to read. -/
namespace SheetActions

/-- Whether a text holds another one, when case is ignored. -/
def mentions (text word : String) : Bool :=
  (Text.pieces word.toList (Text.lower text).toList).length > 1

namespace Directory

/-- The formats of workbooks that can be changed. -/
def changeFormats : List String := [".xlsx", ".xlsm"]

/-- The formats of workbooks that can be read. -/
def readFormats : List String := [".xlsx", ".xls", ".xlsb", ".xlsm", ".ods"]

/-- What a file name with one of the given suffixes leads to. -/
def accept (d : Directory) (formats : List String) (file : String) : Except Fault Node :=
  let p := Path.ofText file
  if !formats.contains p.suffixClass then .error (.refusal (.invalidFormat file formats none))
  else match d.find p with
    | .ok (_, node) => .ok node
    | .error .nameTooLong => .error (.breakdown (.badPath p.text .nameTooLong))
    | .error _ => .error (.refusal (.fileNotFound file))

/-- The failure to open a file for a reason; the words tell a wrong format. -/
def openFailure (formats words : List String) (file reason : String) : Fault :=
  if words.any (mentions reason) then .refusal (.invalidFormat file formats (some reason))
  else .refusal (.readFailure file "open" reason)

/-- The bytes of an archive without entries. -/
def bareArchive : List UInt8 := [0x50, 0x4B, 0x05, 0x06] ++ List.replicate 18 0

/-- The content of a file for what it is: a text can be an archive without entries. -/
def contentKind : Content → Content
  | .text s => if bareArchive.isSuffixOf s.toUTF8.toList then .archive else .text s
  | content => content

/-! ### To be changed -/

/-- The words that tell a wrong format of a file to be changed. -/
def changeWords : List String := ["invalid", "corrupt", "zip"]

/-- The reason for refusing a name that is nothing but points and a suffix. -/
def noFormatReason : String :=
  "openpyxl does not support  file format, please check you can open it with Excel first. "
    ++ "Supported formats are: .xlsx,.xlsm,.xltx,.xltm"

/-- The reason for refusing a file with a character that markup cannot hold. -/
def markupReason : String := "not well-formed (invalid token)"

/-- The new workbook with the given names, or why there is none. -/
def changeableFresh (names : List String) : Except String Workbook :=
  match Fresh.illegal? names with
  | some p => .error s!"{markupReason}: line {p.line}, column {p.column}"
  | none => .ok (.blank (Fresh.loadedNames names))

/-- The workbook to be changed that a node holds, or why there is none. -/
def changeable (p : Path) (node : Node) : Except String Workbook :=
  if p.isBareSuffix then .error noFormatReason
  else match node with
    | .folder => .error (PathFlaw.isFolder.message p.text)
    | .file content =>
      match contentKind content with
      | .text _ => .error "File is not a zip file"
      | .archive => .error "\"There is no item named '[Content_Types].xml' in the archive\""
      | .fresh names => changeableFresh names
      | .workbook w => if w.isMarkup then .ok w.loaded else .error markupReason

/-- Opens a workbook to be changed. -/
def openForChange (d : Directory) (file : String) : Except Fault Workbook := do
  let node ← d.accept changeFormats file
  (changeable (Path.ofText file) node).mapError (openFailure changeFormats changeWords file)

/-! ### To be read -/

/-- The words that tell a wrong format of a file to be read. -/
def readWords : List String := ["invalid", "corrupt", "format"]

/-- The first bytes of the file of a workbook; it has more of them than `compoundLength`. -/
def workbookStart : List UInt8 := [0x50, 0x4B, 0x03, 0x04, 0x14, 0x00, 0x00, 0x00]

/-- The least number of bytes of a compound document. -/
def compoundLength : Nat := 512

/-- The reason for refusing the bytes of a file that is no compound document. -/
def compoundReason : Content → String
  | .workbook _ | .fresh _ => explain workbookStart ""
  | .archive => ofBytes bareArchive
  | .text s => ofBytes s.toUTF8.toList
where
  explain (bytes : List UInt8) (size : String) : String :=
    let signature := (bytes.take 8).flatMap fun b => '\\' :: 'x' :: Text.hexDigits 2 b.toNat
    "Cfb error: Invalid OLE (" ++ size ++ "signature " ++ String.ofList signature
      ++ " invalid, not an office document?)"
  ofBytes (bytes : List UInt8) : String :=
    let isTooSmall := bytes.length < compoundLength
    explain bytes (if isTooSmall then s!"{bytes.length} bytes is too small, " else "")

/-- The workbook in a file of the usual format, or why there is none. -/
def readableWorkbook : Content → Except String Workbook
  | .text _ => .error "invalid Zip archive: Could not find EOCD"
  | .archive => .error "File not found '_rels/.rels'"
  | .fresh names => .ok (.blank names)
  | .workbook w => .ok w

/-- Why an archive is no workbook of another format, which would hold the given entry. -/
def missingEntry (reason : String) : Content → Except String Workbook
  | .text s => readableWorkbook (.text s)
  | _ => .error reason

/-- The reason for refusing a folder. -/
def folderReason : String := "Is a directory (os error 21)"

/-- The workbook to be read that a node holds, or why there is none. A suffix in lower
case says what to expect of the content; any other leaves it to be found out. -/
def readable (p : Path) (node : Node) : Except String Workbook :=
  if p.suffix ≠ p.suffixClass then
    match node with
    | .file (.workbook w) => .ok w
    | .file (.fresh names) => .ok (.blank names)
    | _ => .error "Cannot detect file format"
  else match node with
    | .folder =>
      if p.suffix = ".xls" then .error ("Cfb error: I/O error: " ++ folderReason)
      else if p.suffix = ".ods" then .error ("i/o error: " ++ folderReason)
      else .error folderReason
    | .file content =>
      if p.suffix = ".xls" then .error (compoundReason content)
      else if p.suffix = ".xlsb" then
        missingEntry "File not found: 'xl/workbook.bin'" (contentKind content)
      else if p.suffix = ".ods" then
        missingEntry "'mimetype' file not found in archive" (contentKind content)
      else readableWorkbook (contentKind content)

/-- Opens a workbook to be read. -/
def openForReading (d : Directory) (file : String) : Except Fault Workbook := do
  let node ← d.accept readFormats file
  (readable (Path.ofText file) node).mapError (openFailure readFormats readWords file)

end Directory

/-- The worksheet with a name, which must be there. -/
def Workbook.sheet (w : Workbook) (name : String) : Except Fault Sheet :=
  match w.sheet? name with
  | some s => .ok s
  | none => .error (.refusal (.sheetNotFound name w.names))

/-- What a reader sees of a worksheet of a file. -/
def Directory.read (d : Directory) (file sheet : String) : Except Fault Reading := do
  let w ← d.openForReading file
  let s ← w.sheet sheet
  let v := s.reading
  match v.flaw? with
  | some flaw => throw (.refusal (.readFailure file "read sheet" flaw.message))
  | none => return v

end SheetActions
