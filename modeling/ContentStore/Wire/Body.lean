import ContentStore.Json.Shape
import ContentStore.Metadata

/-!
# Bodies of requests

How metadata, a revision and a registration are written by callers. The members of the metadata
stand among those of the object around it, so their kinds are looked at once all of it is read.
-/

namespace ContentStore

open Json (Field Shape Members Fault Reader)

/-- The members of metadata. -/
def Metadata.fields (isLate : Bool) : List Field :=
  [⟨"objectname", Reader.optional Reader.text, isLate⟩,
    ⟨"size", Reader.optional Reader.text, isLate⟩,
    ⟨"size-int", Reader.optional Reader.int64, isLate⟩,
    ⟨"mime-type", Reader.optional Reader.text, isLate⟩]

/-- Metadata from its members. -/
def Metadata.ofMembers (m : Members) : Metadata :=
  { objectName := m.text? "objectname", sizeText := m.text? "size",
    sizeNumber := m.int? "size-int", mimeType := m.text? "mime-type" }

/-- Metadata by itself. -/
def Metadata.shape : Shape :=
  ⟨Metadata.fields false, .grammar, .shortened⟩

/-- Reads metadata by itself. -/
def Metadata.parse (bytes : List UInt8) : Except Fault Metadata :=
  Metadata.shape.parse (fun m => some (.ofMembers m)) bytes

/-- A revision: metadata and, perhaps, the hash of new content. -/
def Revision.shape : Shape :=
  ⟨⟨"sha256sum", Reader.optional Reader.text, false⟩ :: Metadata.fields true, .full, .refused⟩

/-- A revision from its members. -/
def Revision.ofMembers (m : Members) : Revision :=
  ⟨.ofMembers m, m.text? "sha256sum"⟩

/-- Reads a revision. -/
def Revision.parse (bytes : List UInt8) : Except Fault Revision :=
  Revision.shape.parse (fun m => some (.ofMembers m)) bytes

/-- A registration: a hash, metadata, and whether to link to bytes of others. -/
def Registration.shape : Shape :=
  ⟨⟨"sha256sum", Reader.text, false⟩ :: ⟨"auto-link", Reader.flag, false⟩ ::
    Metadata.fields true, .full, .refused⟩

/-- A registration from its members; the hash must be there. -/
def Registration.ofMembers? (m : Members) : Option Registration :=
  (m.text? "sha256sum").map fun hash =>
    ⟨hash, .ofMembers m, (m.bool? "auto-link").getD false⟩

/-- Reads a registration. -/
def Registration.parse (bytes : List UInt8) : Except Fault Registration :=
  Registration.shape.parse Registration.ofMembers? bytes

end ContentStore
