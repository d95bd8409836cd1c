import ContentStore.Text.Integer
import ContentStore.Text.Pieces

/-!
# Arguments

The words of a command line. A parameter takes its value behind an equals sign or as the next
word, if that does not look like an option; a value that stands apart is looked at when the next
option is known, or at the end. The first fault from the left ends the reading, and so do the
switches that ask for help or for the version.
-/

namespace ContentStore

/-- What the command line says. -/
structure Arguments where
  host : Option String
  port : Option Nat
  databaseUrl : Option String
  storageDir : Option String
  backendUrl : Option String
  publicUrl : Option String
  tokenSeconds : Option Nat
  migrate : Bool
  deriving DecidableEq, Repr

namespace Arguments

/-- An empty command line. -/
def empty : Arguments :=
  ⟨none, none, none, none, none, none, none, false⟩

/-- Why reading ended early. -/
inductive Stop where
  | unknown
  | missingValue
  | badValue
  | repeated
  | needlessValue
  | help
  | version
  deriving DecidableEq, Repr

/-- An option with a value. -/
inductive Parameter where
  | host
  | port
  | databaseUrl
  | storageDir
  | backendUrl
  | publicUrl
  | tokenSeconds
  deriving DecidableEq, Repr

/-- An option without a value. -/
inductive Switch where
  | migrate
  | help
  | version
  deriving DecidableEq, Repr

/-- An option of a long name. -/
inductive Named where
  | parameter (p : Parameter)
  | switch (s : Switch)
  deriving DecidableEq, Repr

/-- The option of a long name, which is written out in full. -/
def Named.ofText? : String → Option Named
  | "host" => some (parameter .host)
  | "port" => some (parameter .port)
  | "database-url" => some (parameter .databaseUrl)
  | "storage-dir" => some (parameter .storageDir)
  | "backend-url" => some (parameter .backendUrl)
  | "public-url" => some (parameter .publicUrl)
  | "token-ttl-secs" => some (parameter .tokenSeconds)
  | "migrate" => some (switch .migrate)
  | "help" => some (switch .help)
  | "version" => some (switch .version)
  | _ => none

/-- The switch of a short name. -/
def Switch.ofLetter? : Char → Option Switch
  | 'h' => some help
  | 'V' => some version
  | _ => none

/-- What a word of the command line looks like. -/
inductive Word where
  /-- Two hyphens, behind which no option stands. -/
  | endOfOptions
  | long (name : String) (value : Option String)
  | short (letter : Char)
  | plain (text : String)
  deriving DecidableEq, Repr

/-- What a text looks like as a word. -/
def Word.ofText (s : String) : Word :=
  match s.toList with
  | ['-', '-'] => endOfOptions
  | '-' :: '-' :: cs =>
    let (name, value) := Text.cutAt (· = '=') cs
    long (String.ofList name) (value.map String.ofList)
  | '-' :: c :: _ => short c
  | _ => plain s

/-- A port: an integer of 16 bits without a sign of its own. -/
def readPort (s : String) : Option Nat :=
  match Text.readInt64 s with
  | .ok n => if 0 ≤ n ∧ n ≤ 65535 then some n.toNat else none
  | .error _ => none

/-- A number of seconds. -/
def readSeconds (s : String) : Option Nat :=
  (Text.readNat Text.maxNat64 s).toOption

/-- Puts a value in a place that is still free. -/
def fill {α : Type} (place : Option α) (value : Option α) : Except Stop (Option α) :=
  match place, value with
  | some _, _ => .error .repeated
  | none, none => .error .badValue
  | none, some a => .ok (some a)

/-- The arguments with the value of a parameter. -/
def assign (a : Arguments) (p : Parameter) (value : String) : Except Stop Arguments :=
  match p with
  | .host => (fill a.host (some value)).map fun v => { a with host := v }
  | .port => (fill a.port (readPort value)).map fun v => { a with port := v }
  | .databaseUrl => (fill a.databaseUrl (some value)).map fun v => { a with databaseUrl := v }
  | .storageDir => (fill a.storageDir (some value)).map fun v => { a with storageDir := v }
  | .backendUrl => (fill a.backendUrl (some value)).map fun v => { a with backendUrl := v }
  | .publicUrl => (fill a.publicUrl (some value)).map fun v => { a with publicUrl := v }
  | .tokenSeconds =>
    (fill a.tokenSeconds (readSeconds value)).map fun v => { a with tokenSeconds := v }

/-- The arguments with a switch turned. -/
def turn (a : Arguments) : Switch → Except Stop Arguments
  | .migrate => if a.migrate then .error .repeated else .ok { a with migrate := true }
  | .help => .error .help
  | .version => .error .version

/-- A parameter whose value has not been looked at, and the value if it came. -/
abbrev Waiting : Type :=
  Option (Parameter × Option String)

/-- Looks at what is waiting. -/
def settle (a : Arguments) : Waiting → Except Stop Arguments
  | none => .ok a
  | some (_, none) => .error .missingValue
  | some (p, some value) => a.assign p value

/-- Reads the words that are left. -/
def readOn (a : Arguments) (waiting : Waiting) : List String → Except Stop Arguments
  | [] => a.settle waiting
  | s :: rest =>
    match Word.ofText s with
    | .endOfOptions => if rest = [] then a.settle waiting else .error .unknown
    | .plain text =>
      match waiting with
      | some (p, none) => readOn a (some (p, some text)) rest
      | _ => .error .unknown
    | .short letter =>
      match Switch.ofLetter? letter with
      | none => .error .unknown
      | some sw => do
        let a ← a.settle waiting
        let a ← a.turn sw
        readOn a none rest
    | .long name value =>
      match Named.ofText? name, value with
      | none, _ => .error .unknown
      | some (.switch _), some _ => .error .needlessValue
      | some (.switch sw), none => do
        let a ← a.settle waiting
        let a ← a.turn sw
        readOn a none rest
      | some (.parameter p), some value => do
        let a ← a.settle waiting
        let a ← a.assign p value
        readOn a none rest
      | some (.parameter p), none => do
        let a ← a.settle waiting
        readOn a (some (p, none)) rest

/-- Reads a command line. -/
def read (words : List String) : Except Stop Arguments :=
  readOn empty none words

end Arguments
end ContentStore
