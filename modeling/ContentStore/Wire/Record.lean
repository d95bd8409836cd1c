import ContentStore.Json.Shape
import ContentStore.Record
import ContentStore.Time.Reading

/-!
# Records as JSON

A record is kept whole under the names of its columns, and shown to callers as a view, which
leaves out the times and gives the size twice, as a text and as a number.
-/

namespace ContentStore.Record

open Json (Shape Members Fault Reader)

/-- A record kept whole. -/
def shape : Shape :=
  { fields :=
      [⟨"id", Reader.textOf fun s => (Uuid.parse? s).isSome, false⟩,
        ⟨"storage_id", Reader.text, false⟩, ⟨"owner", Reader.text, false⟩,
        ⟨"sha256sum", Reader.text, false⟩, ⟨"objectname", Reader.text, false⟩,
        ⟨"size_int", Reader.int64, false⟩, ⟨"mime_type", Reader.text, false⟩,
        ⟨"linked_object", Reader.text, false⟩, ⟨"garbage", Reader.flag, false⟩,
        ⟨"created_at", Reader.textOf fun s => (Time.Instant.parse? s).isSome, false⟩,
        ⟨"updated_at", Reader.textOf fun s => (Time.Instant.parse? s).isSome, false⟩]
    others := .grammar
    listForm := .whole }

/-- A record from its members, all of which must be there. -/
def ofMembers? (m : Members) : Option Record := do
  return {
    id := ← Uuid.parse? (← m.text? "id")
    storageId := ← m.text? "storage_id"
    owner := ← m.text? "owner"
    sha256 := ← m.text? "sha256sum"
    objectName := ← m.text? "objectname"
    size := ← m.int? "size_int"
    mimeType := ← m.text? "mime_type"
    linkedObject := ← m.text? "linked_object"
    garbage := ← m.bool? "garbage"
    createdAt := ← Time.Instant.parse? (← m.text? "created_at")
    updatedAt := ← Time.Instant.parse? (← m.text? "updated_at") }

/-- Reads a record. -/
def parse (bytes : List UInt8) : Except Fault Record :=
  shape.parse ofMembers? bytes

/-- The size in decimal digits. -/
def sizeText (r : Record) : String :=
  String.ofList (Json.digitsOf r.size)

/-- The members of the view that callers get. -/
def viewMembers (r : Record) : List (String × Json) :=
  [("id", .str r.id.text), ("storage-id", .str r.storageId), ("owner", .str r.owner),
    ("objectname", .str r.objectName), ("sha256sum", .str r.sha256),
    ("size", .str r.sizeText), ("size-int", .int r.size), ("mime-type", .str r.mimeType),
    ("linked-object", .str r.linkedObject), ("garbage", .bool r.garbage)]

/-- The view that callers get. -/
def view (r : Record) : Json :=
  .obj r.viewMembers

end ContentStore.Record
