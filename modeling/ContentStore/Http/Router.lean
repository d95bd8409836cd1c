import ContentStore.Http.Identity
import ContentStore.Http.MediaType
import ContentStore.Http.Response
import ContentStore.Http.Target
import ContentStore.Wire.Body

/-!
# Routes

| method | path            | does                                  |
|--------|-----------------|---------------------------------------|
| GET    | `/healthz`      | says that the service runs            |
| GET    | `/readyz`       | says whether store and backend answer |
| POST   | `/objects`      | registers content                     |
| GET    | `/objects`      | lists the caller's records            |
| GET    | `/objects/HASH` | fetches a record                      |
| PUT    | `/objects/HASH` | updates a record                      |
| DELETE | `/objects/HASH` | deletes a record                      |

`HEAD` is answered as `GET`, without the body. A request is looked at in this order: route, method,
identity, path, query, body.
-/

namespace ContentStore

namespace Http

/-- A request. -/
structure Request where
  method : String
  target : Target
  headers : Headers
  body : List UInt8

/-- What a path leads to. -/
inductive Route where
  | health
  | readiness
  | objects
  | object (segment : String)
  deriving DecidableEq, Repr

/-- What the segments of a path lead to. -/
def Route.ofSegments? : List String → Option Route
  | ["healthz"] => some health
  | ["readyz"] => some readiness
  | ["objects"] => some objects
  | ["objects", segment] => if segment = "" then none else some (object segment)
  | _ => none

/-- The bytes that a body may have. -/
def maxBodyBytes : Nat := 2097152

/-- Turns away a fault in a body: text that is no JSON is malformed, JSON of another shape cannot
be processed. -/
def ofFault : Json.Fault → Response
  | .mismatched => .turnedAway 422
  | .malformed | .truncated => .turnedAway 400

/-- What a request's body says, read by `parse`. -/
def Request.read {α : Type} (r : Request) (parse : List UInt8 → Except Json.Fault α) :
    Except Response α :=
  match r.headers.first? "content-type" with
  | none => .error (.turnedAway 415)
  | some contentType =>
    if isPlainText contentType && MediaType.isJson contentType then
      if r.body.length > maxBodyBytes then .error (.turnedAway 413)
      else (parse r.body).mapError ofFault
    else .error (.turnedAway 415)

/-- What a request's query says, read by `parse?`. -/
def Request.query {α : Type} (r : Request) (parse? : String → Option α) : Except Response α :=
  match parse? (r.target.query.getD "") with
  | some a => .ok a
  | none => .error (.turnedAway 400)

/-- The caller of a request. -/
def Request.caller (r : Request) : Except Response Caller :=
  r.headers.caller.mapError .ofNotice

/-- The text of a segment of a path, which has to be UTF-8 once it is decoded. -/
def segmentText (segment : String) : Except Response String :=
  match Text.ofUtf8? (Url.percentDecode (Text.utf8 segment)) with
  | some s => .ok s
  | none => .error (.turnedAway 400)

end Http

namespace Operation

open Http

/-- Goes on with a result, or answers at once. -/
def orAnswer {α : Type} (result : Except Response α) (f : α → Operation Response) :
    Operation Response :=
  match result with
  | .ok a => f a
  | .error response => give response

/-- Answers a refusal with its public face. -/
def answered (x : Operation Response) : Operation Response := do
  match ← attempt x with
  | .ok response => return response
  | .error refusal => return .ofNotice refusal.notice

/-! ### What the routes do -/

/-- Says that the service runs. -/
def health : Operation Response :=
  give (.ofJson 200 (.obj [("status", .str "ok")]))

/-- An identifier that no record has. -/
def freshId : Operation Uuid :=
  fun _ p => (.ok (Uuid.numbered p.store.nextId), p)

/-- What is wrong with the store, if anything. -/
def metadataFault : Operation (Option String) := do
  match ← attempt ping with
  | .ok () => return none
  | .error refusal => return some ("error: " ++ refusal.message)

/-- What is wrong with the backend, if anything: it has to say that bytes nobody stored are
absent. -/
def backendFault : Operation (Option String) := do
  let id := (← freshId).simpleText
  match ← attempt (bytesPresent id) with
  | .ok false => return none
  | .ok true => return some ("unexpected object at " ++ id)
  | .error refusal =>
    let label := (← surroundings).backend.label
    return some (label ++ ": " ++ refusal.message)

/-- Says whether store and backend answer. -/
def readiness : Operation Response := do
  let metadata ← metadataFault
  let backend ← backendFault
  let status := if metadata.isNone && backend.isNone then 200 else 503
  return .ofJson status (readinessBody metadata backend)

/-- Registers content. -/
def serveRegister (r : Request) : Operation Response :=
  orAnswer r.caller fun caller =>
  orAnswer (r.read Registration.parse) fun registration =>
  answered do
    let done ← register caller registration.hash registration.metadata registration.autoLink
    return .ofJson (if done.created then 201 else 200) (← grantedBody done.granted)

/-- Lists the caller's records. -/
def serveList (r : Request) : Operation Response :=
  orAnswer r.caller fun caller =>
  orAnswer (r.query ListQuery.parse?) fun query =>
  answered do
    return .ofJson 200 (pageBody (← listPage caller query.request))

/-- Fetches a record. -/
def serveFetch (r : Request) (segment : String) : Operation Response :=
  orAnswer r.caller fun caller =>
  orAnswer (segmentText segment) fun hash =>
  orAnswer (r.query autoLink?) fun autoLink =>
  answered do
    return .ofJson 200 (← grantedBody (← fetch caller hash autoLink))

/-- Updates a record. -/
def serveUpdate (r : Request) (segment : String) : Operation Response :=
  orAnswer r.caller fun caller =>
  orAnswer (segmentText segment) fun hash =>
  orAnswer (r.read Revision.parse) fun revision =>
  answered do
    return .ofJson 200 (← grantedBody (← update caller hash revision))

/-- Deletes a record. -/
def serveDelete (r : Request) (segment : String) : Operation Response :=
  orAnswer r.caller fun caller =>
  orAnswer (segmentText segment) fun hash =>
  answered do
    let _ ← delete caller hash
    return .bare 204

/-- Serves a request whose route is known. -/
def serveRoute (r : Request) (route : Route) : Operation Response :=
  match route, r.method with
  | .health, "GET" => health
  | .readiness, "GET" => readiness
  | .objects, "POST" => serveRegister r
  | .objects, "GET" => serveList r
  | .object segment, "GET" => serveFetch r segment
  | .object segment, "PUT" => serveUpdate r segment
  | .object segment, "DELETE" => serveDelete r segment
  | _, _ => give (.bare 405)

/-- Serves a request. -/
def serve (r : Request) : Operation Response :=
  let asked := if r.method = "HEAD" then { r with method := "GET" } else r
  match Route.ofSegments? r.target.segments with
  | none => give (.bare 404)
  | some route => serveRoute asked route

end Operation
end ContentStore
