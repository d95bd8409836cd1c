import ContentStore.Caller
import ContentStore.Refusal
import ContentStore.Text.Blank
import ContentStore.Text.Utf8

/-!
# Identity headers

The gateway in front vouches for the caller in three headers, which are read in order; the first
one that is missing or unfit decides what the caller is told.
-/

namespace ContentStore.Http

/-- The headers of a request, in order. -/
abbrev Headers : Type :=
  List (String × String)

/-- The first header of a name; case does not count. -/
def Headers.first? (headers : Headers) (name : String) : Option String :=
  (headers.find? fun h => h.1.toList.map Char.toLower = name.toList.map Char.toLower).map (·.2)

/-- Whether a header value is plain text: printable ASCII and tabs. -/
def isPlainText (value : String) : Bool :=
  value.toList.all fun c => c = '\t' || (0x20 ≤ c.toNat && c.toNat < 0x7F)

/-- The header of the owner. -/
def ownerHeader : String := "x-fleet-owner"

/-- The header of the subject. -/
def subjectHeader : String := "x-fleet-subject"

/-- The header of the kind of caller. -/
def kindHeader : String := "x-fleet-calling-type"

/-- The value of a header that has to say something. -/
def Headers.require (headers : Headers) (name : String) : Except Notice String :=
  match headers.first? name with
  | none => .error (.badRequest s!"missing `{name}` header")
  | some value =>
    if !isPlainText value then .error (.badRequest s!"`{name}` header is not valid text")
    else if Text.trim value = "" then .error (.badRequest s!"`{name}` header is empty")
    else .ok (Text.trim value)

/-- The caller that the headers vouch for. -/
def Headers.caller (headers : Headers) : Except Notice Caller := do
  let owner ← headers.require ownerHeader
  let subject ← headers.require subjectHeader
  let kind ← headers.require kindHeader
  match CallerKind.parse kind with
  | .ok kind => return ⟨owner, subject, kind⟩
  | .error message => throw (.badRequest message)

end ContentStore.Http
