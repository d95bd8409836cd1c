import ContentStore.Quota

/-!
# Finding bytes

Where the bytes of an owner's content can be read. In this order:

1. the owner's own record, if its bytes are present;
2. the owner's link, if its target is live, owns bytes of the same hash, and they are present;
3. if asked for, a new link to the oldest record of another owner with the same hash whose bytes
   are present, within the quota;
4. else nowhere, and the caller has to bring the bytes.
-/

namespace ContentStore

/-- Where bytes were found. -/
inductive Resolution where
  /-- Under the owner's own record. -/
  | backed (record : Record)
  /-- Under the target of the owner's link. -/
  | link (link target : Record)
  /-- Under the target of a link that was made for it. -/
  | linked (link target : Record)
  deriving DecidableEq, Repr

namespace Resolution

/-- The owner's record. -/
def record : Resolution → Record
  | backed r => r
  | link l _ => l
  | linked l _ => l

/-- The storage id under which the bytes lie. -/
def realStorageId : Resolution → String
  | backed r => r.storageId
  | link _ t => t.storageId
  | linked _ t => t.storageId

end Resolution

/-- Whether a record owns bytes that a link stands for. -/
def Record.isTargetOf (target link : Record) : Bool :=
  !target.isLink && target.sha256 = link.sha256

/-- The name of a new link: the one given, else the one of the owner's record; an empty or absent
name gives way to that of the target. -/
def linkName (given : Option String) (existing : Option Record) (target : Record) : String :=
  match given.or (existing.map (·.objectName)) with
  | none => target.objectName
  | some name => if name = "" then target.objectName else name

/-- The row of a new link. -/
def linkDraft (owner : String) (hash : ContentHash) (name : String) (target : Record) : Draft :=
  { storageId := storageId owner hash, owner := owner, sha256 := hash.hex, objectName := name,
    size := target.size, mimeType := target.mimeType, linkedObject := target.storageId }

namespace Operation

/-- The record that owns the bytes a link stands for. -/
def follow (link : Record) : Operation Record := do
  match ← find link.linkedObject with
  | none => refuse .noBytes
  | some target => if target.isTargetOf link then return target else refuse .noBytes

/-- The bytes that the owner's live row already leads to. -/
def resolveExisting (row : Record) : Operation (Option Resolution) := do
  if row.isLink then
    match ← attempt (follow row) with
    | .ok target =>
      if ← bytesPresent target.storageId then return some (.link row target) else return none
    | .error .noBytes => return none
    | .error r => refuse r
  else if ← bytesPresent row.storageId then return some (.backed row)
  else return none

/-- The first of the candidates whose bytes are present. -/
def firstPresent : List Record → Operation (Option Record)
  | [] => return none
  | candidate :: rest => do
    if ← bytesPresent candidate.storageId then return some candidate else firstPresent rest

/-- Makes the owner's row a link to a target. -/
def linkTo (owner : String) (hash : ContentHash) (given : Option String)
    (existing : Option Record) (target : Record) : Operation Resolution := do
  checkQuota owner [storageId owner hash] target.size
  let link ← write (linkDraft owner hash (linkName given existing target) target)
  return .linked link target

/-- Makes a link to the oldest record of another owner whose bytes are present. -/
def linkElsewhere (owner : String) (hash : ContentHash) (given : Option String)
    (existing : Option Record) : Operation Resolution := do
  match ← firstPresent (← candidates hash.hex owner) with
  | none => refuse .noBytes
  | some target => linkTo owner hash given existing target

/-- Finds the bytes of an owner's content; `given` is the name for a new link. -/
def resolve (owner : String) (hash : ContentHash) (autoLink : Bool) (given : Option String) :
    Operation Resolution := do
  let existing ← find (storageId owner hash)
  let found ←
    match existing with
    | none => pure none
    | some row => resolveExisting row
  match found with
  | some resolution => return resolution
  | none => if autoLink then linkElsewhere owner hash given existing else refuse .noBytes

end Operation
end ContentStore
