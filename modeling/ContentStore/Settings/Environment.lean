import ContentStore.Text.Integer
import ContentStore.Text.Utf8

/-!
# Environment variables

A variable is some bytes under a name; it counts only if they are text.
-/

namespace ContentStore

/-- The bytes of each variable that is set. -/
def Environment : Type :=
  String → Option (List UInt8)

/-- Why the settings cannot be used. -/
inductive SettingsFault where
  /-- A variable that is not text. -/
  | notText (name : String)
  | notNumber (name value : String) (why : Text.IntegerFault)
  | noSecret
  | noLifetime
  | negativeQuota
  deriving DecidableEq, Repr

/-- The common start of the names of the variables. -/
def variableStart : String := "OBJECT_STORE_"

namespace SettingsFault

/-- The fault in words. -/
def message : SettingsFault → String
  | notText name => s!"reading {name}"
  | notNumber name value _ => s!"parsing {name} value `{value}`"
  | noSecret => variableStart ++ "TOKEN_SECRET is required"
  | noLifetime => "token TTL must be at least one second"
  | negativeQuota => "default quota must not be negative"

/-- The fault in words, with what lies behind it. -/
def fullMessage (f : SettingsFault) : String :=
  match f with
  | notNumber _ _ why => f.message ++ ": " ++ why.message
  | _ => f.message

end SettingsFault

namespace Environment

/-- The text of a variable, if it is set. -/
def text? (env : Environment) (name : String) : Except SettingsFault (Option String) :=
  match env name with
  | none => .ok none
  | some bytes =>
    match Text.ofUtf8? bytes with
    | some s => .ok (some s)
    | none => .error (.notText name)

/-- The text of a variable, or a default. -/
def text (env : Environment) (name default : String) : Except SettingsFault String :=
  (env.text? name).map fun s => s.getD default

/-- The number of a variable, or a default. -/
def number {α : Type} (env : Environment) (read : String → Except Text.IntegerFault α)
    (name : String) (default : α) : Except SettingsFault α :=
  match env.text? name with
  | .error fault => .error fault
  | .ok none => .ok default
  | .ok (some value) =>
    match read value with
    | .ok n => .ok n
    | .error why => .error (.notNumber name value why)

end Environment
end ContentStore
