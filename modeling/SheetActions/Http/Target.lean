import SheetActions.Number.Numeral
import SheetActions.Text.Quoted
import SheetActions.Text.Split
import SheetActions.Text.Units

/-! Where a request goes.

The target of a request is a reference: an optional scheme and authority, a path, and
parts behind it that do not matter here. A reference without a scheme or a host is
taken from the service itself. `Target.path` is the path that the service looks up:
`.` and `..` are worked out between its slashes, and then escaped characters are put
back twice, once by each side of the connection. -/
namespace SheetActions.Http

/-- Why a request cannot be sent to a target. -/
inductive TargetFlaw where
  | tooLong
  | unprintable (c : Char) (position : Nat)
  | startsWithSlashes
  | startsWithColon
  | badPort (port : String)
  | unknownScheme (scheme : String)
deriving DecidableEq, Repr

namespace TargetFlaw

def label : TargetFlaw → String
  | .unknownScheme _ => "KeyError"
  | _ => "InvalidURL"

def message : TargetFlaw → String
  | .tooLong => "URL too long"
  | .unprintable c position =>
    let shown := Text.quoted (String.singleton c)
    s!"Invalid non-printable ASCII character in URL, {shown} at position {position}."
  | .startsWithSlashes => "Relative URLs cannot have a path starting with '//'"
  | .startsWithColon => "Relative URLs cannot have a path starting with ':'"
  | .badPort port => "Invalid port: " ++ Text.quoted port
  | .unknownScheme scheme => Text.quoted scheme

end TargetFlaw

/-- A reference, taken apart. -/
structure Target where
  scheme : List Char
  authority : List Char
  path : List Char
deriving DecidableEq, Repr

namespace Target

/-! ### Taking a reference apart -/

def isSchemeChar (c : Char) : Bool :=
  c.isAlphanum || c = '+' || c = '.' || c = '-'

/-- Takes a scheme and its colon off the front; the scheme may be empty. -/
def splitScheme (l : List Char) : List Char × List Char :=
  let name := l.takeWhile isSchemeChar
  match l.dropWhile isSchemeChar with
  | ':' :: r => if (name.head?.map Char.isAlpha).getD true then (name, r) else ([], l)
  | _ => ([], l)

/-- Whether a character ends the path. -/
def endsPath (c : Char) : Bool :=
  c = '?' || c = '#'

/-- Whether a character ends the authority. -/
def endsAuthority (c : Char) : Bool :=
  c = '/' || endsPath c

def ofText (s : String) : Target :=
  let (scheme, rest) := splitScheme s.toList
  let (authority, rest) := match rest with
    | '/' :: '/' :: r =>
      (r.takeWhile fun c => !endsAuthority c, r.dropWhile fun c => !endsAuthority c)
    | l => ([], l)
  ⟨scheme.map Char.toLower, authority, rest.takeWhile fun c => !endsPath c⟩

/-- The host and the port behind the name of a user. -/
def address (t : Target) : List Char :=
  if t.authority.contains '@' then (t.authority.dropWhile (· ≠ '@')).drop 1 else t.authority

/-- The host; one in brackets may hold colons. -/
def host (t : Target) : List Char :=
  if t.address.head? = some '[' ∧ t.address.contains ']' then
    (t.address.reverse.dropWhile (· ≠ ']')).reverse
  else t.address.takeWhile fun c => c ≠ ':' ∧ c ≠ '@'

/-- The port, behind the host and a colon. -/
def port (t : Target) : List Char :=
  match t.address.drop t.host.length with
  | ':' :: r => r
  | l => l

/-- Whether the authority says anything. -/
def hasAuthority (t : Target) : Bool :=
  t.authority.any fun c => c ≠ ':' && c ≠ '@'

/-- Whether the reference names its own server. -/
def isAbsolute (t : Target) : Bool :=
  !t.scheme.isEmpty && !t.host.isEmpty

/-! ### Checking -/

/-- The greatest number of characters of a reference. -/
def lengthLimit : Nat := 65536

/-- Whether a character is a control character of ASCII. -/
def isControl (c : Char) : Bool :=
  c.toNat < 0x20 || c.toNat = 0x7F

def schemes : List String := ["http", "https", "ws", "wss"]

/-- What is wrong with the text of a reference as a whole. -/
def textFlaw? (s : String) : Option TargetFlaw :=
  if s.length > lengthLimit then some .tooLong
  else (s.toList.find? isControl).map fun c => .unprintable c (s.toList.idxOf c)

/-- What is wrong with the parts of a reference. -/
def flaw? (t : Target) : Option TargetFlaw :=
  if !t.port.all Char.isDigit then some (.badPort (String.ofList t.port))
  else if t.scheme.isEmpty && !t.hasAuthority && ['/', '/'].isPrefixOf t.path then
    some .startsWithSlashes
  else if t.scheme.isEmpty && !t.hasAuthority && t.path.head? = some ':' then
    some .startsWithColon
  else if t.isAbsolute && !schemes.contains (String.ofList t.scheme) then
    some (.unknownScheme (String.ofList t.scheme))
  else none

/-! ### Paths -/

/-- Works out `.` and `..` among the parts of a path. -/
def dropDots (parts : List (List Char)) : List (List Char) :=
  parts.foldl (fun done part =>
    if part = ['.'] then done
    else if part = ['.', '.'] then
      if done = [] ∨ done = [[]] then done else done.dropLast
    else done ++ [part]) []

/-- Puts escaped characters back. An escape beyond ASCII is a part of a character that no
path of the service has, so it is read as the replacement character. -/
def unescape : List Char → List Char
  | '%' :: a :: b :: r =>
    match Text.hexValue? a, Text.hexValue? b with
    | some m, some n =>
      let code := 16 * m + n
      (if code < 0x80 then Char.ofNat code else Text.replacementChar) :: unescape r
    | _, _ => '%' :: unescape (a :: b :: r)
  | c :: r => c :: unescape r
  | [] => []

/-- The path as it is sent: one from the top. -/
def sentPath (t : Target) : List Char :=
  if t.isAbsolute then t.path else '/' :: t.path.dropWhile (· = '/')

/-- The path that the service looks up. -/
def lookupPath (t : Target) : String :=
  let parts := dropDots (Text.pieces ['/'] t.sentPath)
  let path := ['/'].intercalate parts
  String.ofList (unescape (unescape (if path.isEmpty then ['/'] else path)))

end Target

end SheetActions.Http
