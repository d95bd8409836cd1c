import ContentStore.Time.Instant
import ContentStore.Uuid

/-!
# Records

One owner's entry for some content. A record holds no bytes: it owns the file at the path of its
own storage id, or it is a link, and then `linkedObject` names the record that owns the bytes.
A deleted record stays as garbage.
-/

namespace ContentStore

/-- One owner's entry for some content. -/
structure Record where
  id : Uuid
  storageId : String
  owner : String
  sha256 : String
  objectName : String
  size : Int
  mimeType : String
  linkedObject : String
  garbage : Bool
  createdAt : Time.Instant
  updatedAt : Time.Instant
  deriving DecidableEq, Repr

namespace Record

/-- Whether the bytes belong to another record. -/
def isLink (r : Record) : Bool :=
  r.linkedObject ≠ ""

/-- The storage id under which the bytes lie. -/
def realStorageId (r : Record) : String :=
  if r.isLink then r.linkedObject else r.storageId

theorem isLink_eq_false_iff {r : Record} : r.isLink = false ↔ r.linkedObject = "" := by
  simp [isLink]

theorem realStorageId_of_not_isLink {r : Record} (h : r.isLink = false) :
    r.realStorageId = r.storageId := by
  simp [realStorageId, h]

theorem realStorageId_of_isLink {r : Record} (h : r.isLink = true) :
    r.realStorageId = r.linkedObject := by
  simp [realStorageId, h]

end Record
end ContentStore
