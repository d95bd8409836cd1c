import ContentStore.Http.Message
import ContentStore.Settings
import Std.Time.DateTime.Timestamp

/-!
# The command line

Reads the settings, and serves the requests that arrive on standard input, over a store that
lives as long as the program. The program makes no connections: below its root there are no bytes
but those of a tree that starts empty, and a gateway never answers.
-/

namespace ContentStore

/-- What the command line is answered with before anything is served. -/
def Arguments.Stop.text : Arguments.Stop → String
  | .unknown => "error: unexpected argument found"
  | .missingValue => "error: a value is required for an option but none was supplied"
  | .badValue => "error: invalid value for an option"
  | .repeated => "error: an option cannot be used multiple times"
  | .needlessValue => "error: unexpected value for an option found"
  | .help =>
    "Options: --host HOST, --port PORT, --database-url URL, --storage-dir DIR, " ++
      "--backend-url URL, --public-url URL, --token-ttl-secs SECONDS, --migrate, --help, --version"
  | .version => "0.1.0"

/-- The names of the variables that are read. -/
def variableNames : List String :=
  ["HOST", "PORT", "DATABASE_URL", "STORAGE_DIR", "BACKEND_URL", "PUBLIC_URL", "TOKEN_TTL_SECS",
    "TOKEN_SECRET", "TOKEN_ISSUER", "DEFAULT_PLAN", "DEFAULT_QUOTA_BYTES",
    "CALL_TIMEOUT_MS"].map (variableStart ++ ·)

/-- The variables of the process. -/
def processEnvironment : IO Environment := do
  let set ← variableNames.mapM fun name => do
    return (name, (← IO.getEnv name).map Text.utf8)
  return fun name => (set.lookup name).join

/-- The keeper of bytes that the settings name. -/
def Settings.backend (s : Settings) : Backend :=
  match s.backendUrl with
  | none => .fileTree s.storageDir .empty
  | some url => .gateway (.create url url fun _ => .dropped)

/-- What operations find around them at some time. -/
def Settings.surroundings (s : Settings) (issuer : Issuer) (now : Time.Instant) : Surroundings :=
  { now := now, backend := s.backend, connection := .ready,
    defaultPlan := ⟨s.defaultPlan, s.defaultQuota⟩, issuer := issuer, outage := fun _ _ => none }

/-- The current time. -/
def currentTime : IO Time.Instant := do
  let t ← Std.Time.Timestamp.now
  let nanos := t.toNanosecondsSinceUnixEpoch.toInt
  return ⟨nanos / 1000000000, (nanos % 1000000000).toNat⟩

/-- The header lines up to the empty line. -/
partial def readHeaders (input : IO.FS.Stream) (headers : Http.Headers) : IO Http.Headers := do
  let line := Http.bareLine (← input.getLine)
  if line = "" then return headers
  else
    match Http.headerLine? line with
    | some header => readHeaders input (headers ++ [header])
    | none => readHeaders input headers

/-- Exactly so many bytes, or fewer at the end of the input. -/
partial def readBytes (input : IO.FS.Stream) (count : Nat) : IO (List UInt8) := do
  if count = 0 then return []
  else
    let chunk ← input.read (USize.ofNat (min count 65536))
    if chunk.isEmpty then return []
    else return chunk.data.toList ++ (← readBytes input (count - chunk.size))

/-- Serves requests until the input ends. -/
partial def serveInput (s : Settings) (issuer : Issuer) (store : Store) : IO Unit := do
  let input ← IO.getStdin
  let line ← input.getLine
  if line = "" then return
  match Http.requestLine? (Http.bareLine line) with
  | none => serveInput s issuer store
  | some (method, target) =>
    let headers ← readHeaders input []
    let body ← readBytes input headers.bodyLength
    let around := s.surroundings issuer (← currentTime)
    let (answer, after) := Operation.serve ⟨method, target, headers, body⟩ around ⟨store, 0⟩
    let response :=
      match answer with
      | .ok r => r
      | .error _ => Http.Response.ofNotice (.internal "internal server error")
    let output ← IO.getStdout
    output.putStr (response.text (method ≠ "HEAD"))
    output.flush
    serveInput s issuer after.store

/-- Runs the service with its settings. -/
def runService (a : Arguments) (s : Settings) : IO UInt32 := do
  if a.migrate then return 0
  match s.issuer with
  | .error fault =>
    IO.eprintln ("Error: " ++ fault.message)
    return 1
  | .ok issuer =>
    serveInput s issuer .empty
    return 0

/-- Reads the settings and serves. -/
def runWords (words : List String) : IO UInt32 := do
  match Arguments.read words with
  | .error stop =>
    match stop with
    | .help | .version =>
      IO.println stop.text
      return 0
    | _ =>
      IO.eprintln stop.text
      return 2
  | .ok a =>
    match Settings.merge a (← processEnvironment) with
    | .error fault =>
      IO.eprintln ("Error: " ++ fault.fullMessage)
      return 1
    | .ok s => runService a s

end ContentStore

/-- Reads the settings and serves. -/
def main (words : List String) : IO UInt32 :=
  ContentStore.runWords words
