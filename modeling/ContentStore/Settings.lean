import ContentStore.Settings.Arguments
import ContentStore.Settings.Environment
import ContentStore.Text.Quoted
import ContentStore.Time.Span
import ContentStore.Token.Issuer

/-!
# Settings

What the service runs with. A word of the command line counts before a variable, and a variable
before the default; but every variable that is set is read, and has to be readable. What signs the
tokens is made of the settings, and has rules of its own.
-/

namespace ContentStore

/-- What the service runs with. -/
structure Settings where
  host : String
  port : Nat
  databaseUrl : String
  storageDir : String
  backendUrl : Option String
  publicUrl : String
  tokenSecret : String
  tokenIssuer : String
  tokenSeconds : Nat
  defaultPlan : String
  defaultQuota : Int
  callMilliseconds : Nat
  deriving DecidableEq, Repr

/-- The variables, with defaults for those that are not set. -/
structure Variables where
  host : String
  port : Nat
  databaseUrl : String
  storageDir : String
  backendUrl : Option String
  publicUrl : String
  tokenSeconds : Nat
  tokenSecret : String
  tokenIssuer : String
  defaultPlan : String
  defaultQuota : Int
  callMilliseconds : Nat
  deriving DecidableEq, Repr

/-- Reads the variables in order; the first fault counts. -/
def Environment.variables (env : Environment) : Except SettingsFault Variables := do
  let name (s : String) := variableStart ++ s
  let host ← env.text (name "HOST") "0.0.0.0"
  let port ← env.number (Text.readNat 65535) (name "PORT") 3000
  let databaseUrl ← env.text (name "DATABASE_URL") "sqlite://./data/meta/object_store.db"
  let storageDir ← env.text (name "STORAGE_DIR") "./data/objects"
  let backendUrl ← env.text? (name "BACKEND_URL")
  let publicUrl ← env.text (name "PUBLIC_URL") "http://127.0.0.1:9000"
  let tokenSeconds ← env.number (Text.readNat Text.maxNat64) (name "TOKEN_TTL_SECS") 30
  let tokenSecret ←
    match ← env.text? (name "TOKEN_SECRET") with
    | some secret => pure secret
    | none => throw .noSecret
  let tokenIssuer ← env.text (name "TOKEN_ISSUER") "fleet-object-store"
  let defaultPlan ← env.text (name "DEFAULT_PLAN") "free"
  let defaultQuota ← env.number Text.readInt64 (name "DEFAULT_QUOTA_BYTES") 104857600
  let callMilliseconds ← env.number (Text.readNat Text.maxNat64) (name "CALL_TIMEOUT_MS") 5000
  return {
    host, port, databaseUrl, storageDir, backendUrl, publicUrl, tokenSeconds, tokenSecret,
    tokenIssuer, defaultPlan, defaultQuota, callMilliseconds }

namespace Settings

/-- The settings that a command line and the variables give together. -/
def ofVariables (a : Arguments) (v : Variables) : Settings :=
  { host := a.host.getD v.host, port := a.port.getD v.port,
    databaseUrl := a.databaseUrl.getD v.databaseUrl,
    storageDir := a.storageDir.getD v.storageDir, backendUrl := a.backendUrl.or v.backendUrl,
    publicUrl := a.publicUrl.getD v.publicUrl, tokenSecret := v.tokenSecret,
    tokenIssuer := v.tokenIssuer, tokenSeconds := a.tokenSeconds.getD v.tokenSeconds,
    defaultPlan := v.defaultPlan, defaultQuota := v.defaultQuota,
    callMilliseconds := v.callMilliseconds }

/-- Settings with a lifetime and a quota that make sense. -/
def check (s : Settings) : Except SettingsFault Settings :=
  if s.tokenSeconds = 0 then .error .noLifetime
  else if s.defaultQuota < 0 then .error .negativeQuota
  else .ok s

/-- The settings that a command line and the environment give together. -/
def merge (a : Arguments) (env : Environment) : Except SettingsFault Settings := do
  check (ofVariables a (← env.variables))

/-! ### What signs the tokens -/

/-- The most seconds whose milliseconds are an integer of 64 bits with a sign. -/
def maxTokenSeconds : Nat := 9223372036854775

/-- Why nothing signs tokens with the settings. -/
inductive SigningFault where
  | outOfRange
  | refused (fault : Issuer.Fault)
  deriving DecidableEq, Repr

@[inherit_doc SigningFault]
def SigningFault.message : SigningFault → String
  | .outOfRange => "Source duration value is out of range for the target type"
  | .refused fault => fault.message

/-- What signs tokens with the settings. -/
def issuer (s : Settings) : Except SigningFault Issuer :=
  if maxTokenSeconds < s.tokenSeconds then .error .outOfRange
  else
    (Issuer.create s.tokenSecret s.tokenIssuer s.tokenSeconds s.publicUrl).mapError .refused

/-! ### Showing -/

/-- Where the service listens. -/
def address (s : Settings) : String :=
  s.host ++ ":" ++ toString s.port

/-- The settings on one line, without the secret. -/
def summary (s : Settings) : String :=
  let backend :=
    match s.backendUrl with
    | none => "None"
    | some url => "Some(" ++ Text.quoteText url ++ ")"
  let parts : List (String × String) :=
    [("host", Text.quoteText s.host), ("port", toString s.port),
      ("database_url", Text.quoteText s.databaseUrl),
      ("storage_dir", Text.quoteText s.storageDir), ("backend_url", backend),
      ("public_url", Text.quoteText s.publicUrl), ("token_secret", Text.quoteText "<redacted>"),
      ("token_issuer", Text.quoteText s.tokenIssuer),
      ("token_ttl", Time.spanText (1000 * s.tokenSeconds)),
      ("default_plan", Text.quoteText s.defaultPlan),
      ("default_quota_bytes", toString s.defaultQuota),
      ("call_timeout", Time.spanText s.callMilliseconds)]
  "AppConfig \x7b " ++ ", ".intercalate (parts.map fun (name, value) => name ++ ": " ++ value) ++
    " \x7d"

end Settings
end ContentStore
