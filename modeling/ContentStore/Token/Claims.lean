import ContentStore.Json.Value

/-!
# Claims

What an access token says: who issued it, for whom, which storage id it opens, for how long, and
for which single method.
-/

namespace ContentStore

/-- The one thing a token allows. -/
inductive Method where
  | get
  | put
  deriving DecidableEq, Repr

namespace Method

/-- The method as it is written. -/
def text : Method → String
  | get => "GET"
  | put => "PUT"

/-- The method written exactly so. -/
def ofText? (s : String) : Option Method :=
  if s = "GET" then some get else if s = "PUT" then some put else none

/-- A method is read back from how it is written. -/
theorem ofText?_text (m : Method) : ofText? m.text = some m := by
  cases m <;> rfl

end Method

/-- What a token says; times are in whole seconds since 1970. -/
structure Claims where
  issuer : String
  subject : String
  audience : String
  issuedAt : Int
  expiresAt : Int
  method : Method
  deriving DecidableEq, Repr

/-- The claims as the payload of a token. -/
def Claims.json (c : Claims) : Json :=
  .obj
    [("iss", .str c.issuer), ("sub", .str c.subject), ("aud", .str c.audience),
      ("iat", .int c.issuedAt), ("exp", .int c.expiresAt), ("method", .str c.method.text)]

end ContentStore
