import ContentStore.Service
import ContentStore.Wire.Record
import ContentStore.Http.Query

/-!
# Responses

A response has a status and may have a body: JSON, or a plain text for requests that were turned
away before they were understood. Of those texts only the status counts.
-/

namespace ContentStore

namespace Http

/-- What a response carries. -/
inductive Payload where
  | none
  | text
  | json (v : Json)

/-- What is sent back. -/
structure Response where
  status : Nat
  payload : Payload

namespace Response

/-- The content type, if anything is carried. -/
def contentType? (r : Response) : Option String :=
  match r.payload with
  | .none => Option.none
  | .text => some "text/plain; charset=utf-8"
  | .json _ => some "application/json"

/-- The JSON that is carried, if any. -/
def json? (r : Response) : Option Json :=
  match r.payload with
  | .json v => some v
  | _ => Option.none

/-- A response without a body. -/
def bare (status : Nat) : Response :=
  ⟨status, .none⟩

/-- A request that was turned away before it was understood. -/
def turnedAway (status : Nat) : Response :=
  ⟨status, .text⟩

/-- A response with JSON. -/
def ofJson (status : Nat) (v : Json) : Response :=
  ⟨status, .json v⟩

/-- A notice as a response. -/
def ofNotice (n : Notice) : Response :=
  ofJson n.status n.body

end Response

/-! ### Bodies -/

/-- A page as JSON. -/
def pageBody (p : Page) : Json :=
  .obj
    [("objects", .arr (p.records.map Record.view)), ("key-count", .int p.records.length),
      ("is-truncated", .bool p.truncated),
      ("next-continuation-token", .ofText? (p.next.map encodeContinuation))]

/-- A granted record as JSON: the members of its view, the URLs and the times. -/
def grantedBody (g : Granted) (readUrl writeUrl : Option String) : Json :=
  .obj <|
    g.record.viewMembers ++
      [("signed-puturl", .ofText? writeUrl), ("signed-geturl", .ofText? readUrl),
        ("now", .str g.now.text), ("expire-time", .str g.expiresAt.text)]

/-- One check of a readiness report. -/
def checkBody (error? : Option String) : Json :=
  .obj [("ok", .bool error?.isNone), ("error", .ofText? error?)]

/-- A readiness report. -/
def readinessBody (metadata backend : Option String) : Json :=
  .obj
    [("status", .str (if metadata.isNone && backend.isNone then "ok" else "error")),
      ("checks", .obj [("metadata", checkBody metadata), ("backend", checkBody backend)])]

end Http

namespace Operation

/-- The URL that spends a grant. -/
def url (g : Grant) : Operation String := do
  let path ← pathOf g.storageId
  return (← surroundings).issuer.urlAt path g

/-- The URL of a grant that may not be there. -/
def urlOf? : Option Grant → Operation (Option String)
  | none => return none
  | some g => some <$> url g

/-- A granted record as JSON. -/
def grantedBody (g : Granted) : Operation Json := do
  let writeUrl ← urlOf? g.write
  let readUrl ← urlOf? g.read
  return Http.grantedBody g readUrl writeUrl

end Operation
end ContentStore
