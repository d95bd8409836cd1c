import ContentStore.Caller
import ContentStore.Metadata
import ContentStore.Resolver

/-!
# The service

Registering, fetching, updating, deleting and listing records. Bytes never pass through here:
an answer carries grants, with which the caller reads or writes the bytes elsewhere. Every write
that can make an owner's total larger is preceded by a check of the quota.
-/

namespace ContentStore

/-- A record and the grants given out for it. -/
structure Granted where
  record : Record
  read : Option Grant
  write : Option Grant
  now : Time.Instant
  expiresAt : Time.Instant
  deriving DecidableEq, Repr

/-- The answer to a registration; `created` is false for content that was known already. -/
structure Registered where
  granted : Granted
  created : Bool
  deriving DecidableEq, Repr

/-- A page of a listing; `next` is the storage id after which to go on. -/
structure Page where
  records : List Record
  truncated : Bool
  next : Option String
  deriving DecidableEq, Repr

/-- The most records of a page. -/
def maxPageSize : Nat := 1000

/-- What is asked of a listing. A continuation token stands for `after`. -/
structure ListRequest where
  filter : ListFilter
  continuation : Option String
  pageSize : Option Nat
  deriving DecidableEq, Repr

namespace ListRequest

/-- The records that a page may have. -/
def limit (q : ListRequest) : Nat :=
  max 1 (min maxPageSize (q.pageSize.getD maxPageSize))

/-- The filter with its hash in lower case and the continuation token in place. -/
def effectiveFilter (q : ListRequest) : Except Refusal ListFilter := do
  let sha256 ←
    match q.filter.sha256 with
    | none => pure none
    | some text => (ContentHash.require text).map fun hash => some hash.hex
  return { q.filter with sha256 := sha256, after := q.continuation.or q.filter.after }

end ListRequest

/-- The page made of one record more than it may have. -/
def Page.ofRecords (limit : Nat) (records : List Record) : Page :=
  if records.length > limit then
    let kept := records.take limit
    ⟨kept, true, kept.getLast?.map (·.storageId)⟩
  else ⟨records, false, none⟩

/-! ### Drafts -/

/-- A record that owns the bytes it is waiting for. -/
def ownDraft (owner : String) (hash : ContentHash) (m : Metadata) (size : Int) : Draft :=
  { storageId := storageId owner hash, owner := owner, sha256 := hash.hex,
    objectName := m.objectName.getD "", size := size, mimeType := m.mimeType.getD "",
    linkedObject := "" }

/-- A record with new metadata, as one that owns its bytes. -/
def Record.revised (row : Record) (m : Metadata) (size : Int) : Draft :=
  { storageId := row.storageId, owner := row.owner, sha256 := row.sha256,
    objectName := m.objectName.getD row.objectName, size := size,
    mimeType := m.mimeType.getD row.mimeType, linkedObject := "" }

/-- A link with a new name; size and type stay those of the target. -/
def Record.renamed (row : Record) (m : Metadata) : Draft :=
  { storageId := row.storageId, owner := row.owner, sha256 := row.sha256,
    objectName := m.objectName.getD row.objectName, size := row.size, mimeType := row.mimeType,
    linkedObject := row.linkedObject }

/-- A record for other content, with the metadata of the one it replaces where none is given. -/
def Record.moved (row : Record) (owner : String) (hash : ContentHash) (m : Metadata)
    (size : Int) : Draft :=
  { storageId := ContentStore.storageId owner hash, owner := owner, sha256 := hash.hex,
    objectName := m.objectName.getD row.objectName, size := size,
    mimeType := m.mimeType.getD row.mimeType, linkedObject := "" }

namespace Operation

/-! ### Grants -/

/-- Grants reading from `readFrom`, if given, and writing to the caller's own record that owns
its bytes, if `writable`. -/
def grantAccess (caller : Caller) (record : Record) (readFrom : Option String)
    (writable : Bool) : Operation Granted := do
  let read ←
    match readFrom with
    | none => pure none
    | some storageId => some <$> grant .get storageId caller.owner
  let write ←
    if writable && !record.isLink && record.owner = caller.owner then
      some <$> grant .put record.storageId caller.owner
    else pure none
  let e ← surroundings
  match e.now.later? e.issuer.seconds with
  | none => abort .endOfTime
  | some expiresAt => return ⟨record, read, write, e.now, expiresAt⟩

/-- Grants access to bytes that were found. -/
def grantResolution (caller : Caller) : Resolution → Operation Granted
  | .backed r => grantAccess caller r (some r.storageId) true
  | .link l t => grantAccess caller l (some t.storageId) false
  | .linked l t => grantAccess caller l (some t.storageId) false

/-- Refuses a caller who does not own the record. -/
def requireOwner (caller : Caller) (record : Record) : Operation Unit :=
  if record.owner = caller.owner then pure () else refuse .noAccess

/-- A result that must be there for the caller to have access. -/
def requireSome {α : Type} : Option α → Operation α
  | some a => pure a
  | none => refuse .noAccess

/-! ### Registering -/

/-- The storage id of the bytes that a known record leads to, if they are present. A link that
cannot be followed leads nowhere. -/
def knownBytes (row : Record) : Operation (Option String) := do
  if row.isLink then
    match ← attempt (follow row) with
    | .ok target =>
      if ← bytesPresent target.storageId then return some target.storageId else return none
    | .error _ => return none
  else if ← bytesPresent row.storageId then return some row.storageId
  else return none

/-- The bytes found elsewhere, if that is asked for and there are any. -/
def tryLink (caller : Caller) (hash : ContentHash) (m : Metadata) (autoLink : Bool) :
    Operation (Option Resolution) := do
  if autoLink then
    match ← attempt (resolve caller.owner hash true m.objectName) with
    | .ok resolution => return some resolution
    | .error .noBytes => return none
    | .error r => refuse r
  else return none

/-- Registers content that the caller has a record for: confirms it, or repairs it. -/
def registerKnown (caller : Caller) (hash : ContentHash) (row : Record) (m : Metadata)
    (size : Int) (autoLink : Bool) : Operation Granted := do
  match ← knownBytes row with
  | some real => grantAccess caller row (some real) false
  | none =>
    match ← tryLink caller hash m autoLink with
    | some resolution => grantResolution caller resolution
    | none =>
      let size := if m.givesSize then size else row.size
      checkQuota caller.owner [row.storageId] size
      let record ← write (row.revised m size)
      grantAccess caller record none true

/-- Registers content that the caller has no record for. -/
def registerNew (caller : Caller) (hash : ContentHash) (m : Metadata) (size : Int)
    (autoLink : Bool) : Operation Granted := do
  match ← tryLink caller hash m autoLink with
  | some resolution => grantResolution caller resolution
  | none =>
    checkQuota caller.owner [storageId caller.owner hash] size
    let record ← write (ownDraft caller.owner hash m size)
    grantAccess caller record none true

/-- Makes sure that the caller has a record for some content, and grants what is missing. -/
def register (caller : Caller) (hashText : String) (m : Metadata) (autoLink : Bool) :
    Operation Registered := do
  let hash ← ofExcept (ContentHash.require hashText)
  let size ← ofExcept m.size
  match ← find (storageId caller.owner hash) with
  | some row =>
    requireOwner caller row
    return ⟨← registerKnown caller hash row m size autoLink, false⟩
  | none => return ⟨← registerNew caller hash m size autoLink, true⟩

/-! ### Fetching -/

/-- Grants access to the caller's content. A record whose bytes never came is granted for writing
only; no record at all looks the same as no such content. -/
def fetch (caller : Caller) (hashText : String) (autoLink : Bool) : Operation Granted := do
  let hash ← ofExcept (ContentHash.require hashText)
  match ← attempt (resolve caller.owner hash autoLink none) with
  | .ok resolution =>
    requireOwner caller resolution.record
    grantResolution caller resolution
  | .error .noBytes =>
    match ← find (storageId caller.owner hash) with
    | some row =>
      if !row.isLink && row.owner = caller.owner then grantAccess caller row none true
      else refuse .noAccess
    | none => refuse .noAccess
  | .error r => refuse r

/-! ### Updating -/

/-- Moves a record to other content: the new row is written, the old one becomes garbage. -/
def moveContent (caller : Caller) (row : Record) (newHash : ContentHash) (m : Metadata)
    (size : Int) : Operation Granted := do
  let newId := storageId caller.owner newHash
  checkQuota caller.owner [row.storageId, newId] size
  let record ← write (row.moved caller.owner newHash m size)
  let _ ← markGarbage row.storageId
  if ← bytesPresent newId then grantAccess caller record (some newId) true
  else grantAccess caller record none true

/-- Changes the metadata of a record, or moves it to other content. The size of the record does
not count towards the total that its new size is added to. -/
def update (caller : Caller) (hashText : String) (revision : Revision) : Operation Granted := do
  let hash ← ofExcept (ContentHash.require hashText)
  let newHash ←
    match revision.newHash with
    | none => pure none
    | some text => some <$> ofExcept (ContentHash.require text)
  let row ← requireSome (← find (storageId caller.owner hash))
  requireOwner caller row
  let m := revision.metadata
  let size ← if m.givesSize then ofExcept m.size else pure row.size
  match newHash.filter (· ≠ hash) with
  | some newHash => moveContent caller row newHash m size
  | none =>
    if row.isLink then
      let record ← write (row.renamed m)
      grantAccess caller record (some record.realStorageId) false
    else
      let id := storageId caller.owner hash
      checkQuota caller.owner [id] size
      let record ← write (row.revised m size)
      grantAccess caller record (some id) true

/-! ### Deleting and listing -/

/-- Turns the caller's record into garbage; its bytes stay. -/
def delete (caller : Caller) (hashText : String) : Operation Record := do
  let hash ← ofExcept (ContentHash.require hashText)
  let row ← requireSome (← find (storageId caller.owner hash))
  requireOwner caller row
  if ← markGarbage (storageId caller.owner hash) then return { row with garbage := true }
  else refuse .noAccess

/-- A page of the caller's records. -/
def listPage (caller : Caller) (q : ListRequest) : Operation Page := do
  let filter ← ofExcept q.effectiveFilter
  let records ← list caller.owner filter (q.limit + 1)
  return Page.ofRecords q.limit records

end Operation
end ContentStore
