import ContentStore.Json.Loose
import ContentStore.Refusal
import ContentStore.Token.Header
import ContentStore.Token.Issuer

/-!
# Verifying tokens

A token is good for one method and one storage id if its header names the algorithm, its
signature is the one that the secret gives, its claims are all there, the issuer and the audience
are the wanted ones, and it has not ended before the current second. Every other token is refused
in the same way.
-/

namespace ContentStore

open Json (Shape Field Members Fault Reader)

/-- Claims as JSON. -/
def Claims.shape : Shape :=
  { fields :=
      [⟨"iss", Reader.text, false⟩, ⟨"sub", Reader.text, false⟩, ⟨"aud", Reader.text, false⟩,
        ⟨"iat", Reader.int64, false⟩, ⟨"exp", Reader.int64, false⟩,
        ⟨"method", Reader.oneOf fun s => (Method.ofText? s).isSome, false⟩]
    others := .grammar
    listForm := .whole }

/-- Claims from their members, all of which must be there. -/
def Claims.ofMembers? (m : Members) : Option Claims := do
  return {
    issuer := ← m.text? "iss"
    subject := ← m.text? "sub"
    audience := ← m.text? "aud"
    issuedAt := ← m.int? "iat"
    expiresAt := ← m.int? "exp"
    method := ← Method.ofText? (← m.text? "method") }

/-- Reads claims. -/
def Claims.parse (bytes : List UInt8) : Except Fault Claims :=
  Claims.shape.parse Claims.ofMembers? bytes

namespace Token

/-- A token cut at its last two points. -/
structure Parts where
  header : String
  payload : String
  signature : String
  deriving DecidableEq, Repr

namespace Parts

/-- The last part of some characters and what stands before its point. -/
def cutLast (cs : List Char) : Option (List Char × List Char) :=
  match Text.cutAt (· = '.') cs.reverse with
  | (_, none) => none
  | (last, some before) => some (before.reverse, last.reverse)

/-- The parts of a token. -/
def ofText? (token : String) : Option Parts := do
  let (message, signature) ← cutLast token.toList
  let (header, payload) ← cutLast message
  return ⟨String.ofList header, String.ofList payload, String.ofList signature⟩

/-- What is signed. -/
def message (p : Parts) : String :=
  p.header ++ "." ++ p.payload

end Parts

/-! ### The time before which a token does not count -/

/-- Payloads that are objects in which `nbf`, which is not looked at, has a loose value and
stands at most once. -/
def startShape : Shape :=
  ⟨[⟨"nbf", Reader.loose, false⟩], .grammar, .refused⟩

/-- Whether a payload is such an object. -/
def isPayload (bytes : List UInt8) : Bool :=
  match startShape.parse (fun _ => some ()) bytes with
  | .ok () => true
  | .error _ => false

end Token

namespace Issuer

/-- The bytes of a part of a token. -/
def partBytes? (part : String) : Option (List UInt8) :=
  Text.Base64Url.decode? part

/-- The claims of a signed token. -/
def signedClaims? (i : Issuer) (token : String) : Option Claims := do
  let p ← Token.Parts.ofText? token
  let header ← partBytes? p.header
  guard (Token.isHeader header)
  guard (p.signature = signature i.secret p.message)
  let payload ← partBytes? p.payload
  let claims ← (Claims.parse payload).toOption
  guard (Token.isPayload payload)
  return claims

/-- The claims of a token that is good for a method and a storage id now. -/
def verify (i : Issuer) (token : String) (method : Method) (storageId : String)
    (now : Time.Instant) : Except Refusal Claims :=
  match i.signedClaims? token with
  | none => .error .noAccess
  | some c =>
    if 0 ≤ c.expiresAt ∧ now.seconds ≤ c.expiresAt ∧ c.issuer = i.name ∧
        c.audience = storageId ∧ c.method = method then .ok c
    else .error .noAccess

end Issuer
end ContentStore
