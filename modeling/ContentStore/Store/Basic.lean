import ContentStore.Plan
import ContentStore.Record
import ContentStore.Text.Integer

/-!
# The store of records

The rows of all owners, in the order in which they were first written, and the plans. Rows are
keyed by storage id: `Store.put` writes over the row of that key or adds one, and no row ever
leaves. What a query may see is a *live* row, one that is not garbage.
-/

namespace ContentStore

/-- What a write says about a row. -/
structure Draft where
  storageId : String
  owner : String
  sha256 : String
  objectName : String
  size : Int
  mimeType : String
  linkedObject : String
  deriving DecidableEq, Repr

/-- A row that did not exist before. -/
def Draft.fresh (d : Draft) (id : Uuid) (now : Time.Instant) : Record :=
  { id := id, storageId := d.storageId, owner := d.owner, sha256 := d.sha256,
    objectName := d.objectName, size := d.size, mimeType := d.mimeType,
    linkedObject := d.linkedObject, garbage := false, createdAt := now, updatedAt := now }

/-- A row written over: its identity, owner, content and time of creation stay, and it is live. -/
def Draft.over (d : Draft) (row : Record) (now : Time.Instant) : Record :=
  { row with
    objectName := d.objectName, size := d.size, mimeType := d.mimeType,
    linkedObject := d.linkedObject, garbage := false, updatedAt := now }

/-- The rows, the plans and the supply of identifiers. -/
structure Store where
  rows : List Record
  plans : List (String × Plan)
  nextId : Nat
  deriving Repr

namespace Store

/-- A store without rows. -/
def empty : Store :=
  ⟨[], [], 0⟩

/-! ### Reading -/

/-- The row of a storage id, garbage or not. -/
def row? (s : Store) (storageId : String) : Option Record :=
  s.rows.find? (·.storageId = storageId)

/-- The live row of a storage id. -/
def find? (s : Store) (storageId : String) : Option Record :=
  s.rows.find? fun r => r.storageId = storageId && !r.garbage

/-- The sum of sizes, added in order; there is none once a partial sum leaves 64 bits. -/
def sumInt64 : List Int → Option Int :=
  List.foldl (fun sum? n => sum?.bind fun sum =>
    let next := sum + n
    if Text.minInt64 ≤ next ∧ next ≤ Text.maxInt64 then some next else none) (some 0)

/-- The rows that count towards an owner's total, `excluding` some storage ids. -/
def counted (s : Store) (owner : String) (excluding : List String) : List Record :=
  s.rows.filter fun r => r.owner = owner && !r.garbage && !excluding.contains r.storageId

/-- An owner's total, if it and the sums on the way fit in 64 bits. -/
def usage? (s : Store) (owner : String) (excluding : List String) : Option Int :=
  sumInt64 ((s.counted owner excluding).map (·.size))

/-- The order of candidates: older first, as their times are kept, then by storage id. -/
def candidateOrder (a b : Record) : Bool :=
  let x := a.createdAt.storedText
  let y := b.createdAt.storedText
  x < y || (x = y && a.storageId ≤ b.storageId)

/-- The live rows of other owners that hold bytes with this hash, oldest first. -/
def candidates (s : Store) (sha256 notOwner : String) : List Record :=
  (s.rows.filter fun r =>
    r.sha256 = sha256 && r.owner ≠ notOwner && !r.garbage && !r.isLink).mergeSort candidateOrder

/-- The plan of an owner. -/
def plan? (s : Store) (owner : String) : Option Plan :=
  s.plans.lookup owner

/-! ### Writing -/

/-- The row that a draft leaves behind. -/
def written (s : Store) (d : Draft) (now : Time.Instant) : Record :=
  match s.row? d.storageId with
  | some row => d.over row now
  | none => d.fresh (Uuid.numbered s.nextId) now

/-- Writes a row. -/
def put (s : Store) (d : Draft) (now : Time.Instant) : Store :=
  let row := s.written d now
  { s with
    rows :=
      if (s.row? d.storageId).isSome then
        s.rows.map fun r => if r.storageId = d.storageId then row else r
      else s.rows ++ [row]
    nextId := s.nextId + 1 }

/-- Turns the live row of a storage id into garbage. -/
def markGarbage (s : Store) (storageId : String) (now : Time.Instant) : Store :=
  { s with
    rows := s.rows.map fun r =>
      if r.storageId = storageId ∧ r.garbage = false then
        { r with garbage := true, updatedAt := now }
      else r }

/-- Sets the plan of an owner. -/
def setPlan (s : Store) (owner : String) (plan : Plan) : Store :=
  { s with plans := (owner, plan) :: s.plans.filter (·.1 ≠ owner) }

/-! ### One equation per write -/

theorem row?_some {s : Store} {storageId : String} {r : Record} (h : s.row? storageId = some r) :
    r ∈ s.rows ∧ r.storageId = storageId := by
  unfold row? at h
  exact ⟨List.mem_of_find?_eq_some h, by simpa using List.find?_some h⟩

theorem find?_some {s : Store} {storageId : String} {r : Record}
    (h : s.find? storageId = some r) :
    r ∈ s.rows ∧ r.storageId = storageId ∧ r.garbage = false := by
  unfold find? at h
  exact ⟨List.mem_of_find?_eq_some h, by simpa using List.find?_some h⟩

/-- A written row has the key of its draft. -/
theorem storageId_written (s : Store) (d : Draft) (now : Time.Instant) :
    (s.written d now).storageId = d.storageId := by
  unfold written
  split
  · next row h => exact (row?_some h).2
  · rfl

/-- A written row is live. -/
theorem garbage_written (s : Store) (d : Draft) (now : Time.Instant) :
    (s.written d now).garbage = false := by
  unfold written
  split <;> rfl

end Store
end ContentStore
