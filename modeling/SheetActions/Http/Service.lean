import SheetActions.Action.Run
import SheetActions.Http.Body
import SheetActions.Http.Status
import SheetActions.Http.Target
import SheetActions.Json.Printer

/-! The service over HTTP.

Each action has a path that requests are posted to, and one more path tells whether
the service is alive; what is at other paths is for people. The body of a request is
JSON. What is wrong with a body is reported with its place in it; the outcome of an
action is the body of the reply, and decides its status. A service that was not
started checks requests all the same. Where a caller gets no JSON for an answer, the
cause is an `Unanswered`. -/
namespace SheetActions.Http

/-- What can be found at a path. -/
inductive Route where
  | health
  | action (a : Action)
  /-- A page that describes the service, by its path. -/
  | guide (path : String)
deriving DecidableEq, Repr

namespace Route

def path : Route → String
  | .health => "/health"
  | .action .add => "/excel/add-data"
  | .action .read => "/excel/get-cell"
  | .action .search => "/excel/row-index-by-condition"
  | .action .create => "/excel/new-document"
  | .guide path => path

def methods : Route → List String
  | .health => ["GET"]
  | .action _ => ["POST"]
  | .guide _ => ["GET", "HEAD"]

def guides : List Route :=
  [.guide "/docs", .guide "/docs/oauth2-redirect", .guide "/redoc", .guide "/openapi.json"]

def all : List Route := .health :: Action.all.map .action ++ guides

/-- Whether a request to the route can change a directory. -/
def isChange : Route → Bool
  | .action a => a.isChange
  | _ => false

/-- The path without the slashes at its end. -/
def withoutEnd (path : String) : String :=
  String.ofList (path.toList.reverse.dropWhile (· = '/')).reverse

/-- The route at a path. -/
def atPath? (path : String) : Option Route :=
  all.find? (·.path = path)

/-- The route that a path leads to; slashes at its end lead to the one without them. -/
def ofPath? (path : String) : Option Route :=
  (atPath? path).or (atPath? (withoutEnd path))

end Route

/-- Why a caller gets no JSON for an answer. -/
inductive Unanswered where
  | notSent (flaw : TargetFlaw)
  /-- A number that JSON does not have would have to be sent. -/
  | notFinite
  /-- What would have to be sent cannot be written in UTF-8. -/
  | notEncodable (run : Text.SurrogateRun)
  /-- The answer has no body. -/
  | noBody
  /-- The answer is a page for people, which starts on its second line behind four blanks. -/
  | page
deriving DecidableEq, Repr

namespace Unanswered

def label : Unanswered → String
  | .notSent flaw => flaw.label
  | .notFinite => "ValueError"
  | .notEncodable _ => Text.SurrogateRun.label
  | .noBody | .page => "JSONDecodeError"

def message : Unanswered → String
  | .notSent flaw => flaw.message
  | .notFinite => "Out of range float values are not JSON compliant"
  | .notEncodable run => run.message
  | .noBody => "Expecting value: line 1 column 1 (char 0)"
  | .page => "Expecting value: line 2 column 5 (char 5)"

end Unanswered

structure Reply where
  status : Nat
  body : Json

namespace Reply

def detail (status : Nat) (d : Json) : Reply :=
  ⟨status, .object [("detail", d)]⟩

def notFound : Reply := detail 404 (.text "Not Found")

def methodNotAllowed : Reply := detail 405 (.text "Method Not Allowed")

def unreadableBody : Reply := detail 400 (.text "There was an error parsing the body")

def notStarted : Reply := detail 503 (.text "Excel service is not initialized")

/-- The reply that a service is alive. -/
def healthy : Reply :=
  ⟨200, .object [("status", .text "healthy"), ("service", .text "Excel Data Service"),
    ("version", .text "0.1.0")]⟩

/-- The reply to a request that is not well formed. -/
def unprocessable (issues : List Form.Issue) : Reply :=
  detail 422 (.array (issues.map Form.Issue.toJson))

def ofOutcome (o : Outcome) : Reply :=
  ⟨o.status, o.toJson⟩

end Reply

/-- Why a value cannot be sent. A number is looked for before the text is written. -/
def unsent? (j : Json) : Option Unanswered :=
  if !j.isFinite then some .notFinite
  else (Text.surrogateRuns j.sent).head?.map .notEncodable

/-- Sends a reply, if its body can be sent. -/
def Reply.send (r : Reply) : Except Unanswered Reply :=
  match unsent? r.body with
  | some cause => .error cause
  | none => .ok r

/-! ### Requests -/

/-- The place of the issues of a body. -/
def bodyPlace : String := "body"

/-- The issue moved to its place in a body. -/
def inBody (i : Form.Issue) : Form.Issue :=
  { i with place := bodyPlace ++ "." ++ i.place }

/-- The body of a request. -/
inductive Body where
  /-- Nothing, or a value that the caller writes as JSON. -/
  | value (j : Option Json)
  /-- Bytes, by the characters that they are in UTF-8. -/
  | raw (text : String)

structure Call where
  method : String
  target : String
  body : Body

/-- Why the body of a request cannot be sent. -/
def Body.unsent? : Body → Option Unanswered
  | .value (some j) => Http.unsent? j
  | _ => none

/-- What arrives of a body, or the reply to a body that is not read. -/
def Body.arrived : Body → Except Reply (Option Json)
  | .value j => .ok j
  | .raw text =>
    match readBody text with
    | .ok j => .ok j
    | .error (.misfit offset) => .error (.unprocessable [inBody ⟨toString offset, .unreadable⟩])
    | .error .unreadable => .error .unreadableBody

/-- Replies to a request that is not well formed. The reply has to repeat the values at
fault, so these must be values that can be sent. -/
def rejection (issues : List Form.Issue) (atFault : List Json) : Except Unanswered Reply :=
  if atFault.all Json.isFinite then .ok (.unprocessable issues) else .error .notFinite

/-- Reads the request for an action from a body; null counts as no body. -/
def readRequest (settings : Checked Settings) (a : Action) :
    Option Json → Except (Except Unanswered Reply) Request
  | none | some .null => .error (rejection [⟨bodyPlace, .missing⟩] [])
  | some (.object fields) =>
    ((Request.ofJson settings a (.object fields)).toExcept).mapError fun issues =>
      rejection (issues.map inBody) (issues.filterMap fun i => fields.lookup i.place)
  | some j => .error (rejection [⟨bodyPlace, .notARecord⟩] [j])

/-! ### Replies -/

/-- Answers the request for an action. -/
def act (settings : Checked Settings) (started : Bool) (d : Directory) (a : Action)
    (body : Option Json) : Except Unanswered Reply × Directory :=
  match readRequest settings a body with
  | .error rejected => (rejected, d)
  | .ok r =>
    if !started then (.ok .notStarted, d)
    else
      let (outcome, d) := r.run d
      ((Reply.ofOutcome outcome).send, d)

/-- Answers a request for a path by a method in upper case. -/
def answer (settings : Checked Settings) (started : Bool) (d : Directory) (method path : String)
    (body : Body) : Except Unanswered Reply × Directory :=
  match Route.ofPath? path with
  | none => (.ok .notFound, d)
  | some route =>
    if !route.methods.contains method then (.ok .methodNotAllowed, d)
    else match route, body.arrived with
      | .health, _ => (.ok .healthy, d)
      | .guide _, _ => (.error .page, d)
      | .action _, .error reply => (.ok reply, d)
      | .action a, .ok body => act settings started d a body

/-- Why a call is not sent. -/
def Call.obstacle? (c : Call) : Option Unanswered :=
  (((Target.textFlaw? c.target).or (Target.ofText c.target).flaw?).map .notSent).or c.body.unsent?

/-- Makes a call. The case of its method does not count, and the answer to `HEAD` has no
body. -/
def call (settings : Checked Settings) (started : Bool) (d : Directory) (c : Call) :
    Except Unanswered Reply × Directory :=
  match c.obstacle? with
  | some cause => (.error cause, d)
  | none =>
    let method := c.method.toUpper
    let (reply, d) := answer settings started d method (Target.ofText c.target).lookupPath c.body
    (if method = "HEAD" then .error .noBody else reply, d)

end SheetActions.Http
