import ContentStore.Service
import ContentStore.Text.Utf8
import ContentStore.Url.Percent

/-!
# Queries

A query is a list of fields with ampersands between them; a plus sign stands for a blank, and
other bytes are percent-encoded. A field that is asked for may stand once, and others do not
count.
-/

namespace ContentStore.Http

/-- A name or a value as it was meant; bytes that are not UTF-8 are replaced. -/
def decodeField (cs : List Char) : String :=
  let spaced := cs.map fun c => if c = '+' then ' ' else c
  Text.lossy (Url.percentDecode (Text.utf8 (String.ofList spaced)))

/-- The fields of a query. -/
def fields (query : String) : List (String × String) :=
  ((Text.pieces (· = '&') query.toList).filter (· ≠ [])).map fun piece =>
    let (name, value) := Text.cutAt (· = '=') piece
    (decodeField name, decodeField (value.getD []))

/-- The value of a field, if it stands there; nothing at all if it stands there twice. -/
def field? (fields : List (String × String)) (name : String) : Option (Option String) :=
  match fields.filter (·.1 = name) with
  | [] => some none
  | [f] => some (some f.2)
  | _ => none

/-- The value of a field that `read` makes something of. -/
def fieldOf? {α : Type} (read : String → Option α) (fields : List (String × String))
    (name : String) : Option (Option α) := do
  match ← field? fields name with
  | none => return none
  | some s => return some (← read s)

/-- A flag, written as one of two words. -/
def readFlag (s : String) : Option Bool :=
  if s = "true" then some true else if s = "false" then some false else none

/-- A number of 64 bits. -/
def readCount (s : String) : Option Nat :=
  (Text.readNat Text.maxNat64 s).toOption

/-! ### Fetching -/

/-- Whether a query asks to link to bytes of others. -/
def autoLink? (query : String) : Option Bool := do
  return (← fieldOf? readFlag (fields query) "auto-link").getD false

/-! ### Listing -/

/-- What a query asks of a listing. -/
structure ListQuery where
  objectName : Option String
  nameStart : Option String
  mimeType : Option String
  sha256 : Option String
  linked : Option Bool
  maxKeys : Option Nat
  continuation : Option String
  deriving DecidableEq, Repr

/-- Reads a query for a listing. -/
def ListQuery.parse? (query : String) : Option ListQuery := do
  let fs := fields query
  return {
    objectName := ← field? fs "objectname"
    nameStart := ← field? fs "prefix"
    mimeType := ← field? fs "mime-type"
    sha256 := ← field? fs "sha256sum"
    linked := ← fieldOf? readFlag fs "linked"
    maxKeys := ← fieldOf? readCount fs "max-keys"
    continuation := ← field? fs "continuation-token" }

/-- The token behind which a listing goes on. -/
def encodeContinuation (storageId : String) : String :=
  Text.Base64Url.encodeText (Text.utf8 storageId)

/-- What a token stands for; a text that is no token stands for itself. -/
def decodeContinuation (token : String) : String :=
  ((Text.Base64Url.decode? token).bind Text.ofUtf8?).getD token

/-- The listing that a query asks for. -/
def ListQuery.request (q : ListQuery) : ListRequest :=
  { filter :=
      { objectName := q.objectName, nameStart := q.nameStart, mimeType := q.mimeType,
        sha256 := q.sha256, linked := q.linked, after := none }
    continuation := q.continuation.map decodeContinuation
    pageSize := q.maxKeys }

end ContentStore.Http
