import DocumentStore.Command.Argument
import DocumentStore.Command.Execution

/-!
# The service

Clients send commands as JSON objects to one path. The body of a request is read before the path
is looked at, so that a body that cannot be read is refused everywhere. Every answer is a JSON
object that tells whether the command succeeded.
-/

namespace DocumentStore

/-- A request of a client. -/
structure Request where
  method : String
  path : String
  body : ByteArray

/-- Why a request is refused. -/
inductive Refusal
  /-- The body is not JSON. -/
  | invalidBody
  /-- There is nothing at the path, or not for the method. -/
  | notFound
  /-- The text names no action. -/
  | unknownAction (shown : String)
  | invalidArguments (action : Action) (error : ArgumentError)
  | store (error : StoreError)

namespace Refusal

/-- A refusal in words. -/
def message : Refusal → String
  | .invalidBody => "Invalid JSON body."
  | .notFound => "Not Found"
  | .unknownAction shown => "Unknown action: " ++ shown
  | .invalidArguments action error =>
    "Invalid arguments for " ++ action.name ++ ": " ++ error.message
  | .store error => error.message

/-- The status of a refusal. -/
def status : Refusal → Nat
  | .invalidBody => 400
  | .notFound => 404
  | .unknownAction _ => 500
  | .invalidArguments _ _ => 500
  | .store _ => 500

end Refusal

/-- The answer to a request. -/
structure Response where
  status : Nat
  body : Json

namespace Response

/-- The type of the content of every answer. -/
def contentType : String := "application/json"

/-- The answer to a request that is refused. -/
def ofRefusal (refusal : Refusal) : Response :=
  ⟨refusal.status, .object [("message", .string refusal.message), ("status", .string "error")]⟩

/-- The answer to a request that succeeds. -/
def ofOutcome : Outcome → Response
  | .data value => ⟨200, .object [("data", value), ("status", .string "success")]⟩
  | .message text => ⟨200, .object [("message", .string text), ("status", .string "success")]⟩

end Response

namespace Service

/-- The value in the body of a request; the empty body stands for an object without fields. -/
def readBody (body : ByteArray) : Except Refusal Json :=
  if body.isEmpty then .ok (.object [])
  else
    match (String.fromUTF8? body).bind fun text => Json.read? text.toList with
    | some value => .ok value.arrange
    | none => .error .invalidBody

/-- Whether commands are sent to this path by this method. -/
def isRoute (method path : String) : Bool := path == "/command" && method == "POST"

/-- The fields of an object; other values have none. -/
def fieldsOf : Json → List (String × Json)
  | .object fields => fields
  | _ => []

/-- The command that a value stands for. -/
def readCommand (value : Json) : Except Refusal Command :=
  let fields := fieldsOf value
  match Entries.get? "action" fields with
  | none => .error (.unknownAction "undefined")
  | some (.string name) =>
    match Action.ofName? name with
    | none => .error (.unknownAction name)
    | some action => (Command.ofFields fields action).mapError (.invalidArguments action)
  | some other => .error (.unknownAction other.text)

/-- The command of a request. -/
def read (request : Request) : Except Refusal Command := do
  let value ← readBody request.body
  if isRoute request.method request.path then readCommand value else .error .notFound

/-- Answers a request. -/
def respond (database : Database) (disk : Disk) (supply : Nat → Stamp) (request : Request) :
    Response × Database × Disk :=
  match read request with
  | .error refusal => (.ofRefusal refusal, database, disk)
  | .ok command =>
    let result := command.execute database disk supply
    match result.answer with
    | .ok outcome => (.ofOutcome outcome, result.database, result.disk)
    | .error error => (.ofRefusal (.store error), result.database, result.disk)

end Service

end DocumentStore
