import ContentStore.ContentHash
import ContentStore.Json.Value

/-!
# Refusals

Why an operation gives no answer. A refusal has a text of its own and a public face, a status and
a text for whoever called: a record that is missing and a record of somebody else look the same
there, and what went wrong inside stays inside.
-/

namespace ContentStore

/-- Why an operation was refused. -/
inductive Refusal where
  /-- The text names no content. -/
  | badHash (reason : String)
  /-- The request says something that cannot be. -/
  | invalid (reason : String)
  /-- The caller has no such record. -/
  | noAccess
  /-- No record gives the caller bytes that are present. -/
  | noBytes
  /-- The owner's total would pass the quota. -/
  | overQuota (usage quota : Int)
  /-- A call outlived its deadline. -/
  | timedOut (call : String)
  /-- The keeper of the bytes did not answer as it should. -/
  | backend (detail : String)
  /-- A token could not be signed. -/
  | signing (detail : String)
  /-- The store of the records failed. -/
  | database (detail : String)
  /-- The file system failed. -/
  | fileSystem (detail : String)
  deriving DecidableEq, Repr

namespace Refusal

/-- The refusal in words. -/
def message : Refusal → String
  | badHash reason => s!"invalid content hash: {reason}"
  | invalid reason => s!"invalid request: {reason}"
  | noAccess => "no access"
  | noBytes => "no backing file available"
  | overQuota usage quota => s!"quota exceeded: {usage} bytes requested, {quota} allowed"
  | timedOut call => s!"{call} timed out"
  | backend detail => s!"storage backend: {detail}"
  | signing detail => s!"token signing failed: {detail}"
  | database detail => detail
  | fileSystem detail => detail

/-- A text that names no content. -/
def ofHashFault (fault : ContentHash.Fault) : Refusal :=
  badHash fault.message

end Refusal

/-- What a caller over HTTP is told: a status and a text. -/
structure Notice where
  status : Nat
  text : String
  deriving DecidableEq, Repr

/-- A mistake in the request. -/
def Notice.badRequest (text : String) : Notice :=
  ⟨400, text⟩

/-- A failure inside. -/
def Notice.internal (text : String) : Notice :=
  ⟨500, text⟩

/-- A notice as a body. -/
def Notice.body (n : Notice) : Json :=
  .obj [("error", .str n.text), ("status", .int n.status)]

/-- The public face of a refusal. -/
def Refusal.notice (r : Refusal) : Notice :=
  match r with
  | badHash _ | invalid _ => .badRequest r.message
  | noAccess | noBytes => ⟨403, "no access"⟩
  | overQuota _ _ => ⟨412, r.message⟩
  | timedOut _ | backend _ => ⟨503, r.message⟩
  | signing _ | database _ | fileSystem _ => .internal "internal server error"

/-- Reads a content hash, refusing what is none. -/
def ContentHash.require (text : String) : Except Refusal ContentHash :=
  match ContentHash.parse text with
  | .ok hash => .ok hash
  | .error fault => .error (.ofHashFault fault)

end ContentStore
