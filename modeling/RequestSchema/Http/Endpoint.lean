import RequestSchema.Conversion.Report
import RequestSchema.Encoding.Detect
import RequestSchema.Http.Route
import RequestSchema.Http.Target
import RequestSchema.Json.Parser
import RequestSchema.Json.Printer
import RequestSchema.Log.Entry
import RequestSchema.Settings.Basic
import RequestSchema.Text.LetterCase

set_option autoImplicit false

/-!
# The conversion endpoint

Descriptions are posted to one route, in bodies of bounded size, and answered with their schema.
What is wrong with a request is answered as a JSON object with a code and a message. Values of a
kind that no step can work with have no answer, nor have schemas that nest too deep.
-/

namespace RequestSchema

/-- A request, with the length of its body if it declares one. -/
structure Request where
  method : Text
  declaredLength : Option Nat
  body : List UInt8

structure Response where
  status : Int
  contentType : Text
  body : Text

/-! ## Bodies -/

inductive BodyFault where
  | undecodable (error : DecodingError)
  | notJson (error : JsonError)

def BodyFault.message : BodyFault → Text
  | undecodable error => error.message
  | notJson error => error.message

def readBody (bytes : List UInt8) : Except BodyFault Json :=
  match decodeJsonText bytes with
  | .error error => .error (.undecodable error)
  | .ok text => (Json.ofChars text).mapError .notJson

/-- Whether a declared length is over the limit. -/
def declaresTooMuch (limit : Int) (declared : Option Nat) : Bool := declared.any fun n => limit < n

/-- Whether a body is over the limit; no limit is set by zero. -/
def holdsTooMuch (limit : Int) (body : List UInt8) : Bool := limit != 0 && limit < body.length

/-! ## Answers -/

/-- Why a request has no answer: its description cannot be worked with, or what would answer it
    cannot be written, or it cannot be told whether its path fits the route. -/
inductive Unanswered where
  | description (fault : Fault)
  | unwritten (problem : WriteProblem)
  | route (problem : MatchProblem)

/-- Answers with a value, if it can be written. -/
def jsonResponse (status : Int) (value : Json) : Except Unanswered Response :=
  match value.write .compact with
  | .ok text => .ok ⟨status, "application/json", text⟩
  | .error problem => .error (.unwritten problem)

def errorValue (code message : Text) (details : Members) : Json :=
  .obj (("error", .str code) :: ("message", .str message) :: details)

def errorResponse (status : Int) (code message : Text) (details : Members) :
    Except Unanswered Response :=
  jsonResponse status (errorValue code message details)

def plainResponse (status : Int) (text : Text) : Response := ⟨status, "text/plain", text⟩

def tooLargeResponse (limit : Int) : Except Unanswered Response :=
  errorResponse 413 "body_too_large" ("request body exceeds " ++ toString limit ++ " bytes") []

def serverLogger : Text := "apidoc_schema.server"

def serverEntry (path : Text) (level : LogLevel) (event : Text) (values : Members) : LogEntry :=
  ⟨serverLogger, level, event, ("path", .str path) :: values⟩

abbrev Answer := Except Unanswered Response × List LogEntry

def tooLarge (path : Text) (limit : Int) (declared : Members) : Answer :=
  (tooLargeResponse limit,
    [serverEntry path .warning "Request body too large."
      (declared ++ ([("limit", .int limit)] : Members))])

def refuseBody (path : Text) (fault : BodyFault) : Answer :=
  (errorResponse 400 "invalid_json" ("request body is not valid JSON: " ++ fault.message) [],
    [serverEntry path .info "Rejected request body that is not valid JSON."
      [("error", .str fault.message)]])

/-- The answer to a description that was refused. -/
def refuse (path : Text) (fault : Fault) : Answer :=
  match fault with
  | .invalidDocument problem =>
    (errorResponse 400 "invalid_document" problem.text [],
      [serverEntry path .info "Rejected API description." [("error", .str problem.text)]])
  | .invalidType value problem location =>
    let message := invalidTypeMessage value problem location
    let place := location.elim Json.null .str
    (errorResponse 400 "invalid_type" message [("value", value), ("location", place)],
      [serverEntry path .info "Rejected API description with a malformed type."
        [("error", .str message), ("location", place)]])
  | .unresolvedTypes warnings =>
    let message := unresolvedMessage warnings
    (errorResponse 422 "unresolved_types" message
        [("warnings", .arr (warnings.map Warning.toJson))],
      [serverEntry path .info "Rejected API description with unresolved types."
        [("error", .str message)]])
  | fault => (.error (.description fault), [])

def warningEntry (path : Text) (warning : Warning) : LogEntry :=
  serverEntry path .warning "Conversion warning."
    [("kind", .str warning.kind.text), ("subject", .str warning.subject)]

def accept (path : Text) (status : Int) (report : Report) : Answer :=
  (jsonResponse status report.schema.toJson,
    report.warnings.map (warningEntry path) ++
      [serverEntry path .info "API description converted."
        [("warnings", .int report.warnings.length)]])

/-- The answer to a description, after the events of its conversion. -/
def answerDescription (settings : Settings) (path : Text) (description : Json) : Answer :=
  let (outcome, events) := convert description settings.conversion.strict
  let (response, entries) := match outcome with
    | .ok report => accept path settings.server.successStatus report
    | .error fault => refuse path fault
  (response, events.map LogEntry.ofEvent ++ entries)

def answerPost (settings : Settings) (path : Text) (request : Request) : Answer :=
  let limit := settings.server.maxBodyBytes
  if declaresTooMuch limit request.declaredLength then
    tooLarge path limit
      (request.declaredLength.toList.map fun (n : Nat) => ("content_length", .int n))
  else if holdsTooMuch limit request.body then tooLarge path limit []
  else
    match readBody request.body with
    | .error fault => refuseBody path fault
    | .ok description => answerDescription settings path description

/-! ## Routing -/

/-- Answers a request for a path to an endpoint that is served at a route. Letters of a method count
    as their capitals. -/
def answer (settings : Settings) (route : Route) (path : TargetPath) (request : Request) : Answer :=
  match route.leadsTo path.routed with
  | .error problem => (.error (.route problem), [])
  | .ok false => (.ok (plainResponse 404 "404: Not Found"), [])
  | .ok true =>
    if uppered request.method ≠ "POST" then
      (.ok (plainResponse 405 "405: Method Not Allowed"), [])
    else answerPost settings path.shown request

end RequestSchema
