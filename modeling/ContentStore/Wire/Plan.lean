import ContentStore.Caller
import ContentStore.Json.Shape
import ContentStore.Plan

/-!
# Plans and kinds of callers as JSON
-/

namespace ContentStore

open Json (Shape Members Fault Reader)

/-- A plan: its name and its bytes. -/
def Plan.shape : Shape :=
  ⟨[⟨"plan", Reader.text, false⟩, ⟨"quota_bytes", Reader.int64, false⟩], .grammar, .whole⟩

/-- A plan from its members, both of which must be there. -/
def Plan.ofMembers? (m : Members) : Option Plan := do
  return ⟨← m.text? "plan", ← m.int? "quota_bytes"⟩

/-- Reads a plan. -/
def Plan.parse (bytes : List UInt8) : Except Fault Plan :=
  Plan.shape.parse Plan.ofMembers? bytes

/-- A kind of caller, as one of the three words. -/
def CallerKind.reader : Reader CallerKind := do
  match ← Reader.oneOf fun s => (CallerKind.ofText? s).isSome with
  | .str s =>
    match CallerKind.ofText? s with
    | some kind => return kind
    | none => Reader.fail .mismatched
  | _ => Reader.fail .mismatched

/-- Reads a kind of caller. -/
def CallerKind.parseJson (bytes : List UInt8) : Except Fault CallerKind :=
  CallerKind.reader.run bytes

end ContentStore
