import ContentStore.Digest.Hmac
import ContentStore.StorageId
import ContentStore.Text.Base64Url
import ContentStore.Text.Pieces
import ContentStore.Time.Instant
import ContentStore.Token.Claims

/-!
# Issuing tokens

A token is three parts with points between them: a header, the claims, and the keyed digest of
both. An issuer signs with one secret, for one length of time; a grant is what it gives out.
-/

namespace ContentStore

/-- What tokens are signed with, in whose name, for how many seconds, and the address under which
clients reach the bytes. Lifetimes are whole seconds, as every configuration gives them. -/
structure Issuer where
  secret : String
  name : String
  seconds : Nat
  publicUrl : String
  deriving DecidableEq, Repr

namespace Issuer

/-- The bytes that a secret needs at least. -/
def minSecretBytes : Nat := 32

/-- Why there is no such issuer. -/
inductive Fault where
  | shortSecret
  | noLifetime
  deriving DecidableEq, Repr

@[inherit_doc Fault]
def Fault.message : Fault → String
  | .shortSecret => s!"token secret must be at least {minSecretBytes} characters"
  | .noLifetime => "token TTL must be positive"

/-- An issuer with a long enough secret and a lifetime; slashes at the end of the address do not
count. -/
def create (secret name : String) (seconds : Int) (publicUrl : String) : Except Fault Issuer :=
  if secret.utf8ByteSize < minSecretBytes then .error .shortSecret
  else if seconds ≤ 0 then .error .noLifetime
  else .ok ⟨secret, name, seconds.toNat, Text.dropAtEnd '/' publicUrl⟩

/-! ### Signing -/

/-- The header of every token. -/
def header : Json :=
  .obj [("typ", .str "JWT"), ("alg", .str "HS256")]

/-- A value as one part of a token. -/
def part (v : Json) : String :=
  Text.Base64Url.encodeText (Text.utf8 v.text)

/-- The signature of a text, as the last part of a token. -/
def signature (secret message : String) : String :=
  Text.Base64Url.encodeText (Hmac.sign (Text.utf8 secret) (Text.utf8 message))

/-- The token for some claims. -/
def sign (secret : String) (c : Claims) : String :=
  let message := part header ++ "." ++ part c.json
  message ++ "." ++ signature secret message

end Issuer

/-- A token given out: what it says, and when it was issued and ends, to the nanosecond. -/
structure Grant where
  claims : Claims
  issuedAt : Time.Instant
  expiresAt : Time.Instant
  deriving DecidableEq, Repr

namespace Grant

/-- The method the token allows. -/
def method (g : Grant) : Method :=
  g.claims.method

/-- The storage id the token opens. -/
def storageId (g : Grant) : String :=
  g.claims.audience

end Grant

namespace Issuer

/-- A grant that starts now; there is none if it would outlive the calendar. -/
def issue? (i : Issuer) (method : Method) (storageId subject : String) (now : Time.Instant) :
    Option Grant :=
  (now.later? i.seconds).map fun expiresAt =>
    { claims :=
        { issuer := i.name, subject := subject, audience := storageId,
          issuedAt := now.seconds, expiresAt := expiresAt.seconds, method := method }
      issuedAt := now
      expiresAt := expiresAt }

/-- The token of a grant. -/
def token (i : Issuer) (g : Grant) : String :=
  sign i.secret g.claims

/-- The URL that spends a grant, where the bytes have a path. -/
def urlAt (i : Issuer) (path : String) (g : Grant) : String :=
  i.publicUrl ++ "/" ++ path ++ "?token=" ++ i.token g

/-- The URL that spends a grant, if its storage id has a path. -/
def url? (i : Issuer) (g : Grant) : Option String :=
  (storagePath? g.storageId).map fun path => i.urlAt path g

end Issuer
end ContentStore
