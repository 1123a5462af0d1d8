import Ddl.Api.Address
import Ddl.Api.Input
import Ddl.Api.Response
import Ddl.Api.StandIn
import Ddl.Json.Writer
import Ddl.Script.Statements
import Ddl.Text.Capital

/-! Requests are answered by the endpoint at their path. -/

namespace Ddl

/-- A request. -/
structure Request where
  /-- The method, in capital or small letters. -/
  method : Text
  /-- The path of the place that is asked, without escapes. -/
  path : Text
  /-- The bytes of the body, of which there are none when there is no body. -/
  body : List UInt8

/-- A place that answers requests. -/
inductive Endpoint where
  /-- The greeting at the root. -/
  | root
  /-- The sign that the service works. -/
  | health
  /-- The reading of one statement. -/
  | parse
  /-- The planning of many statements. -/
  | parseMultiple
  /-- The planning of the statements of a script. -/
  | parseScript
  /-- The description of the service for programs. -/
  | description
  /-- The page on which the service can be tried out. -/
  | explorer
  /-- The page to which others come back after signing in. -/
  | explorerReturn
  /-- The page that describes the service for people. -/
  | reference
  deriving DecidableEq

namespace Endpoint

/-- All endpoints. -/
def all : List Endpoint :=
  [root, health, parse, parseMultiple, parseScript,
    description, explorer, explorerReturn, reference]

/-- The path of an endpoint. -/
def path : Endpoint → Text
  | root => "/".toList
  | health => "/api/tables/health".toList
  | parse => "/api/tables/parse".toList
  | parseMultiple => "/api/tables/parse-multiple".toList
  | parseScript => "/api/tables/parse-script".toList
  | description => "/openapi.json".toList
  | explorer => "/docs".toList
  | explorerReturn => "/docs/oauth2-redirect".toList
  | reference => "/redoc".toList

/-- The method of an endpoint. -/
def method : Endpoint → Text
  | parse => "POST".toList
  | parseMultiple => "POST".toList
  | parseScript => "POST".toList
  | _ => "GET".toList

/-- The endpoint at a path. -/
def atPath? (path : Text) : Option Endpoint :=
  -- A line feed at the end of a path is not taken as part of it.
  all.find? fun endpoint => path = endpoint.path ∨ path = endpoint.path ++ ['\n']

/-- The endpoint to which a path leads. -/
def leadsTo? (path : Text) : Option Endpoint :=
  -- A path with slashes at its end that is no place leads to the place without them.
  match atPath? path with
  | some endpoint => some endpoint
  | none => atPath? (path.trimEndBy (· = '/'))

/-- The answer that greets. -/
def greeting : Response :=
  ⟨200, .object [("message".toList, .string "Schema Order API".toList)]⟩

/-- The answer that says that the service works. -/
def healthReport : Response :=
  ⟨200, .object [("status".toList, .string "ok".toList),
    ("message".toList, .string "Tables API is working".toList)]⟩

/-- The answer to one statement. -/
def answerStatement (limit : Int) (statement : Text) : Response :=
  -- A statement alone is held to the limit like one of many.
  match Plan.table (some limit) statement with
  | .ok table => .ofTable table
  | .error fault => .failure fault.message

/-- The answer to many statements. -/
def answerStatements (limit : Int) (statements : List Text) : Response :=
  .ofPlan (Plan.ofStatements (some limit) statements)

/-- The body of the answer to the items of a list as it has to be written, where halves of surrogate
pairs stand that the items hold and the answer shows. -/
def writtenAnswer (limit : Int) (items : List RawText) : RawText :=
  let body (row : Nat) := (answerStatements limit (items.map (StandIn.fill row))).body.written
  StandIn.merge (body StandIn.firstRow) (body StandIn.secondRow)

/-- The reply to the items of a list, each of which is a statement. -/
def replyToItems (limit : Int) (items : List RawText) : Except Utf8.Unwritable Response :=
  -- Half of a pair in a comment does no harm, but no answer can be written that shows it.
  match Utf8.unwritable? (writtenAnswer limit items) with
  | some unwritable => .error unwritable
  | none => .ok (answerStatements limit (items.map (StandIn.fill StandIn.firstRow)))

/-- The answer to a script. -/
def answerScript (limit : Int) (script : Text) : Response :=
  -- The limit holds for each statement of the script, and not for the script itself.
  match Script.statements script with
  | .error error => .failure error.message
  | .ok [] => .failure ScriptError.noStatement.message
  | .ok statements => answerStatements limit statements

/-- The answer to input that is not accepted. -/
def refusal : InputError → Response
  | .unreadable => .unreadableBody
  | .invalid complaints => .failure (Complaint.renderAll complaints)

/-- The reply to checked input, which says what is wrong with input that is not accepted. -/
def replyToChecked {Value : Type} (reply : Value → Except Utf8.Unwritable Response) :
    Input.Checked Value → Except Utf8.Unwritable Response
  | .ok value => reply value
  | .error error => .ok (refusal error)

/-- The reply of an endpoint to the body of a request. -/
def reply (limit : Int) (body : List UInt8) : Endpoint → Except Utf8.Unwritable Response
  -- Only the items of a list may hold halves of surrogate pairs.
  | root => .ok greeting
  | health => .ok healthReport
  | parse => replyToChecked (.ok <| answerStatement limit ·) (Input.text "ddl".toList body)
  | parseMultiple => replyToChecked (replyToItems limit) (Input.texts "ddls".toList body)
  | parseScript => replyToChecked (.ok <| answerScript limit ·) (Input.text "script".toList body)
  | _ => .ok .page

end Endpoint

namespace Request

/-- The request for the place that an address names. -/
def ofAddress (method address : Text) (body : List UInt8) : Except AddressError Request :=
  (Address.resolve address).map fun path => ⟨method, path, body⟩

/-- The reply to a request, where no statement may have more characters than the limit, or what
keeps the answer from being written. -/
def reply (limit : Int) (request : Request) : Except Utf8.Unwritable Response :=
  match Endpoint.leadsTo? request.path with
  | none => .ok .notFound
  | some endpoint =>
    if endpoint.method = request.method.capitalize then endpoint.reply limit request.body
    else .ok .methodNotAllowed

/-- The answer to a request. -/
def answer (limit : Int) (request : Request) : Response :=
  -- Nobody answers for what cannot be written.
  match request.reply limit with
  | .ok response => response
  | .error _ => .serverError

end Request

end Ddl
