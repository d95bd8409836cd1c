import ContentStore.Json.Shape

/-!
# Headers of tokens

A header names the algorithm by which the token is signed. Its other fields do not count, but they
must be of their kinds. One of them holds a key, and which fields a key has depends on its kind.
-/

namespace ContentStore.Token

open Json (Shape Field Members Reader)

/-! ### Keys -/

/-- The kinds of keys. -/
inductive KeyKind where
  | curvePoint
  | rsa
  | octets
  | octetPair
  deriving DecidableEq, Repr

namespace KeyKind

/-- The name of a kind. -/
def text : KeyKind → String
  | curvePoint => "EC"
  | rsa => "RSA"
  | octets => "oct"
  | octetPair => "OKP"

/-- The kind of a name. -/
def ofText? (s : String) : Option KeyKind :=
  [curvePoint, rsa, octets, octetPair].find? (·.text = s)

/-- A kind is read back from its name. -/
theorem ofText?_text (kind : KeyKind) : ofText? kind.text = some kind := by
  cases kind <;> rfl

/-- A curve by its name. -/
def curve : Reader Json :=
  Reader.oneOf ["P-256", "P-384", "P-521", "Ed25519"].contains

/-- The fields that make a key of this kind; every one of them has to be there. -/
def fields : KeyKind → List Field
  | curvePoint => [⟨"crv", curve, false⟩, ⟨"x", Reader.text, false⟩, ⟨"y", Reader.text, false⟩]
  | rsa => [⟨"n", Reader.text, false⟩, ⟨"e", Reader.text, false⟩]
  | octets => [⟨"k", Reader.text, false⟩]
  | octetPair => [⟨"crv", curve, false⟩, ⟨"x", Reader.text, false⟩]

end KeyKind

/-- The algorithms that a key may name. -/
def keyAlgorithms : List String :=
  ["HS256", "HS384", "HS512", "ES256", "ES384", "RS256", "RS384", "RS512", "PS256", "PS384",
    "PS512", "EdDSA", "RSA1_5", "RSA-OAEP", "RSA-OAEP-256"]

/-- Null, or an object without members in its place. -/
def nullOrEmpty : Reader Json := do
  if (← Reader.peek) = Json.ascii '\x7b' then
    Reader.advance
    if (← Reader.peek) = Json.ascii '\x7d' then
      Reader.advance
      return .null
    else Reader.fail .mismatched
  else Reader.nothing

/-- Fields that are texts, null or absent. -/
def textFields (names : List String) : List Field :=
  names.map fun name => ⟨name, Reader.optional Reader.text, false⟩

/-- The chain of certificates, of a key as of a header. -/
def chainField : Field :=
  ⟨"x5c", Reader.optional (Reader.listOf Reader.text), false⟩

/-- Keys with the given fields besides those that keys of every kind have. -/
def keyShape (own : List Field) : Shape :=
  { fields :=
      textFields ["use", "kid", "x5u", "x5t", "x5t#S256"] ++
        [⟨"key_ops", Reader.optional (Reader.listOf Reader.text), false⟩,
          ⟨"alg", Reader.optional (Reader.oneOfHolding nullOrEmpty keyAlgorithms.contains), false⟩,
          chainField, ⟨"kty", Reader.oneOf fun s => (KeyKind.ofText? s).isSome, false⟩] ++ own
    others := .grammar
    listForm := .refused }

/-- The kind of a key. -/
def keyKind? (bytes : List UInt8) : Option KeyKind :=
  ((keyShape []).parse (fun m => m.text? "kty" >>= KeyKind.ofText?) bytes).toOption

/-- Whether bytes are a key with all the fields of its kind. -/
def isKey (bytes : List UInt8) : Bool :=
  match keyKind? bytes with
  | none => false
  | some kind =>
    let allThere (m : Members) : Option Unit :=
      guard (kind.fields.all fun f => (m.lookup f.name).isSome)
    ((keyShape kind.fields).parse allThere bytes).isOk

/-- A key, every part of which is looked at closely. -/
def key : Reader Json := do
  if (← Reader.peek) = Json.ascii '\x7b' then
    if isKey (← Reader.extent .full 1) then return .null else Reader.fail .mismatched
  else Reader.mismatch

/-! ### Headers -/

/-- The header of a token. -/
def headerShape : Shape :=
  { fields :=
      textFields ["typ"] ++ [⟨"alg", Reader.oneOf (· = "HS256"), false⟩] ++
        textFields ["cty", "jku"] ++ [⟨"jwk", Reader.optional key, false⟩] ++
        textFields ["kid", "x5u"] ++ [chainField] ++ textFields ["x5t", "x5t#S256"]
    others := .grammar
    listForm := .whole }

/-- Whether a header is well formed and names the algorithm. -/
def isHeader (bytes : List UInt8) : Bool :=
  (headerShape.parse (fun m => m.text? "alg") bytes).isOk

end ContentStore.Token
