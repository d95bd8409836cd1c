import ContentStore.Backend
import ContentStore.Store.Listing
import ContentStore.Token.Issuer

/-!
# Operations

An operation reads its surroundings, makes calls to the store and to the backend, and ends with
an answer or a failure; what it wrote before it failed stays written. Every call is counted, and
the surroundings decide for each one whether it is carried out or meets an outage instead. Every
storage id that is cut into a path is noted, so that a run tells what it looked for.
-/

namespace ContentStore

/-- A call that leaves the service. -/
inductive Call where
  | lookup (storageId : String)
  | write (storageId : String)
  | erase (storageId : String)
  | usage (owner : String)
  | candidates (sha256 : String)
  | listing (owner : String)
  | ping
  | plan (owner : String)
  | probe (storageId : String)
  deriving DecidableEq, Repr

/-- What the call is called when it outlives its deadline. -/
def Call.label : Call → String
  | lookup _ => "metadata lookup"
  | write _ => "metadata upsert"
  | erase _ => "metadata delete"
  | usage _ => "usage aggregation"
  | candidates _ => "link candidate search"
  | listing _ => "metadata list"
  | ping => "metadata store ping"
  | plan _ => "quota lookup"
  | probe _ => "storage backend probe"

/-- A call that is not carried out. A write that is carried out although its answer comes too late
is not among them: what an outage stops changes nothing. -/
inductive Outage where
  /-- The deadline passes. -/
  | late
  | failed (refusal : Refusal)
  deriving DecidableEq, Repr

/-- What a call that is not carried out is refused with. -/
def Outage.refusal (c : Call) : Outage → Refusal
  | late => .timedOut c.label
  | failed r => r

/-- Why an operation gives no answer at all. -/
inductive Abort where
  /-- A storage id cannot be cut into a path. -/
  | noPath (storageId : String)
  /-- A token would outlive the calendar. -/
  | endOfTime
  deriving DecidableEq, Repr

/-- How an operation fails. -/
inductive Failure where
  | refused (r : Refusal)
  | aborted (why : Abort)
  deriving DecidableEq, Repr

/-- Whether the store of the records answers. -/
inductive Connection where
  /-- The tables do not exist yet. -/
  | blank
  | ready
  | closed
  deriving DecidableEq, Repr

/-- What an operation finds around it and cannot change. -/
structure Surroundings where
  now : Time.Instant
  backend : Backend
  connection : Connection
  defaultPlan : Plan
  issuer : Issuer
  /-- The outage that the call of a given number in the operation meets, if any. -/
  outage : Nat → Call → Option Outage

/-- What an operation has done so far. Only the number of calls makes a difference to what comes
later, since outages go by it. -/
structure Journal where
  /-- The number of calls made. -/
  calls : Nat
  /-- The storage ids that were cut into paths, the last one first. -/
  cut : List String
  deriving DecidableEq, Repr

namespace Journal

/-- Nothing has been done. -/
instance : Zero Journal where
  zero := ⟨0, []⟩

/-- The journal after some more calls. -/
def calling (j : Journal) (more : Nat) : Journal :=
  { j with calls := j.calls + more }

/-- The journal after a storage id was cut into a path. -/
def cutting (j : Journal) (storageId : String) : Journal :=
  { j with cut := storageId :: j.cut }

@[simp] theorem calls_calling (j : Journal) (more : Nat) :
    (j.calling more).calls = j.calls + more :=
  rfl

@[simp] theorem calls_cutting (j : Journal) (storageId : String) :
    (j.cutting storageId).calls = j.calls :=
  rfl

end Journal

/-- What an operation changes: the store, and the journal. -/
structure Progress where
  store : Store
  journal : Journal

/-- A computation in some surroundings that changes the progress and may fail. -/
def Operation (α : Type) : Type :=
  Surroundings → Progress → Except Failure α × Progress

namespace Operation

variable {α β : Type}

/-- An answer without a call. -/
def give (a : α) : Operation α :=
  fun _ p => (.ok a, p)

/-- One operation and then another, unless the first one fails. -/
def andThen (x : Operation α) (f : α → Operation β) : Operation β :=
  fun e p =>
    match x e p with
    | (.ok a, p') => f a e p'
    | (.error failure, p') => (.error failure, p')

instance : Monad Operation where
  pure := give
  bind := andThen

/-- The failure of an operation. -/
def fail (failure : Failure) : Operation α :=
  fun _ p => (.error failure, p)

/-- A refusal. -/
def refuse (r : Refusal) : Operation α :=
  fail (.refused r)

/-- An end without an answer. -/
def abort (why : Abort) : Operation α :=
  fail (.aborted why)

/-- A result that may be a refusal. -/
def ofExcept : Except Refusal α → Operation α
  | .ok a => give a
  | .error r => refuse r

/-- The surroundings. -/
def surroundings : Operation Surroundings :=
  fun e p => (.ok e, p)

/-- The operation with its refusal, if it has one, as an answer. -/
def attempt (x : Operation α) : Operation (Except Refusal α) :=
  fun e p =>
    match x e p with
    | (.ok a, p') => (.ok (.ok a), p')
    | (.error (.refused r), p') => (.ok (.error r), p')
    | (.error (.aborted why), p') => (.error (.aborted why), p')

/-- A call: an outage refuses it, and otherwise `body` answers it. -/
def call (c : Call) (body : Surroundings → Store → Except Refusal (α × Store)) : Operation α :=
  fun e p =>
    match e.outage p.journal.calls c with
    | some o => (.error (.refused (o.refusal c)), ⟨p.store, p.journal.calling 1⟩)
    | none =>
      match body e p.store with
      | .ok (a, store) => (.ok a, ⟨store, p.journal.calling 1⟩)
      | .error r => (.error (.refused r), ⟨p.store, p.journal.calling 1⟩)

/-- Notes that a storage id is cut into a path. -/
def noteCut (storageId : String) : Operation Unit :=
  fun _ p => (.ok (), ⟨p.store, p.journal.cutting storageId⟩)

/-- The path of a storage id. Operations cut paths here and nowhere else. -/
def pathOf (storageId : String) : Operation String := do
  noteCut storageId
  match storagePath? storageId with
  | some path => return path
  | none => abort (.noPath storageId)

/-! ### How operations run -/

theorem pure_run (a : α) (e : Surroundings) (p : Progress) :
    (pure a : Operation α) e p = (.ok a, p) :=
  rfl

theorem bind_run (x : Operation α) (f : α → Operation β) (e : Surroundings) (p : Progress) :
    (x >>= f) e p =
      match x e p with
      | (.ok a, p') => f a e p'
      | (.error failure, p') => (.error failure, p') :=
  rfl

theorem pathOf_run {storageId path : String} {e : Surroundings} {p : Progress}
    (cut : storagePath? storageId = some path) :
    pathOf storageId e p = (.ok path, ⟨p.store, p.journal.cutting storageId⟩) := by
  rw [pathOf, cut]
  rfl

end Operation

/-! ### The calls -/

/-- What a closed store refuses with. -/
def closedStore : Refusal :=
  .database "attempted to acquire a connection on a closed pool"

/-- What a store without tables refuses with. -/
def missingTables : Refusal :=
  .database "no such table: objects"

/-- What a total past 64 bits is refused with. -/
def sumOverflow : Refusal :=
  .database "integer overflow"

/-- A query over the tables. -/
def Surroundings.query {α : Type} (e : Surroundings) (answer : Except Refusal α) :
    Except Refusal α :=
  match e.connection with
  | .blank => .error missingTables
  | .ready => answer
  | .closed => .error closedStore

namespace Operation

/-- The live row of a storage id. -/
def find (storageId : String) : Operation (Option Record) :=
  call (.lookup storageId) fun e s => e.query (.ok (s.find? storageId, s))

/-- Writes a row and gives it back. -/
def write (d : Draft) : Operation Record :=
  call (.write d.storageId) fun e s => e.query (.ok (s.written d e.now, s.put d e.now))

/-- Turns the live row of a storage id into garbage; the answer says whether there was one. -/
def markGarbage (storageId : String) : Operation Bool :=
  call (.erase storageId) fun e s =>
    e.query (.ok ((s.find? storageId).isSome, s.markGarbage storageId e.now))

/-- An owner's total, `excluding` some storage ids. -/
def usage (owner : String) (excluding : List String) : Operation Int :=
  call (.usage owner) fun e s =>
    e.query <|
      match s.usage? owner excluding with
      | some total => .ok (total, s)
      | none => .error sumOverflow

/-- The records of other owners that hold bytes with this hash, oldest first. -/
def candidates (sha256 notOwner : String) : Operation (List Record) :=
  call (.candidates sha256) fun e s => e.query (.ok (s.candidates sha256 notOwner, s))

/-- The first `limit` of the owner's live rows that a filter admits. -/
def list (owner : String) (f : ListFilter) (limit : Nat) : Operation (List Record) :=
  call (.listing owner) fun e s => e.query (.ok (s.list owner f limit, s))

/-- Whether the store answers at all; that needs no tables. -/
def ping : Operation Unit :=
  call .ping fun e s =>
    match e.connection with
    | .closed => .error closedStore
    | _ => .ok ((), s)

/-- The plan of an owner. -/
def plan (owner : String) : Operation (Option Plan) :=
  call (.plan owner) fun e s => e.query (.ok (s.plan? owner, s))

/-- Whether the bytes for a storage id are present. -/
def bytesPresent (storageId : String) : Operation Bool := do
  let path ← pathOf storageId
  call (.probe storageId) fun e s => (e.backend.holds path).map fun held => (held, s)

/-- A grant that starts now. -/
def grant (method : Method) (storageId subject : String) : Operation Grant :=
  fun e p =>
    match e.issuer.issue? method storageId subject e.now with
    | some g => (.ok g, p)
    | none => (.error (.aborted .endOfTime), p)

end Operation
end ContentStore
