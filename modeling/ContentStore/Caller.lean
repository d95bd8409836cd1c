/-!
# Callers

Who a request is made for. The owner has the records and pays for them; the subject is the user,
the device or the service that acts for the owner.
-/

namespace ContentStore

/-- What kind of subject is calling. -/
inductive CallerKind where
  | user
  | device
  | service
  deriving DecidableEq, Repr

namespace CallerKind

/-- The kind as it is written. -/
def text : CallerKind → String
  | user => "USER"
  | device => "DEVICE"
  | service => "SERVICE"

/-- The kind written exactly so. -/
def ofText? (s : String) : Option CallerKind :=
  if s = "USER" then some user
  else if s = "DEVICE" then some device
  else if s = "SERVICE" then some service
  else none

/-- The text with the letters of ASCII in upper case. -/
def upperCase (s : String) : String :=
  String.ofList (s.toList.map Char.toUpper)

/-- Reads a kind in any case; the error quotes the text in upper case. -/
def parse (s : String) : Except String CallerKind :=
  let upper := upperCase s
  match ofText? upper with
  | some kind => .ok kind
  | none => .error s!"unknown calling type `{upper}`"

/-- A kind is read back from how it is written. -/
theorem ofText?_text (kind : CallerKind) : ofText? kind.text = some kind := by
  cases kind <;> rfl

end CallerKind

/-- The one a request is made for, as the gateway in front vouches. -/
structure Caller where
  owner : String
  subject : String
  kind : CallerKind
  deriving DecidableEq, Repr

end ContentStore
