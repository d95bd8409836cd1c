import ContentStore.Store.Basic

/-!
# Listing an owner's records

A filter is a set of conditions, each of which may be left out; a listing has the owner's live
rows that meet all of them, by storage id.
-/

namespace ContentStore

/-- The conditions of a listing. -/
structure ListFilter where
  objectName : Option String
  nameStart : Option String
  mimeType : Option String
  sha256 : Option String
  /-- Only links, or only records that own their bytes. -/
  linked : Option Bool
  /-- Only storage ids greater than this one. -/
  after : Option String
  deriving DecidableEq, Repr

/-- No condition. -/
def ListFilter.all : ListFilter :=
  ⟨none, none, none, none, none, none⟩

/-- The text with the letters of ASCII in lower case. -/
def lowerCase (s : String) : String :=
  String.ofList (s.toList.map Char.toLower)

/-- Whether `start`, measured up to its first NUL, is what the name has at its start. -/
def startsAs (name start : String) : Bool :=
  name.toList.take (start.toList.takeWhile (· ≠ '\x00')).length = start.toList

/-- Whether an optional condition is met. -/
def meets {α : Type} (given : Option α) (condition : α → Bool) : Bool :=
  match given with
  | none => true
  | some a => condition a

/-- Whether a record meets every condition of the filter. -/
def ListFilter.admits (f : ListFilter) (r : Record) : Bool :=
  meets f.objectName (fun name => r.objectName = name) &&
    meets f.nameStart (fun start => startsAs r.objectName start) &&
    meets f.mimeType (fun mime => r.mimeType = mime) &&
    meets f.sha256 (fun sha => r.sha256 = lowerCase sha) &&
    meets f.linked (fun linked => r.isLink = linked) &&
    meets f.after (fun after => after < r.storageId)

/-- The order of a listing. -/
def listingOrder (a b : Record) : Bool :=
  a.storageId ≤ b.storageId

/-- The owner's live rows that the filter admits, by storage id. -/
def Store.matching (s : Store) (owner : String) (f : ListFilter) : List Record :=
  (s.rows.filter fun r => r.owner = owner && !r.garbage && f.admits r).mergeSort listingOrder

/-- The first `limit` rows of a listing; a limit past 63 bits is none. -/
def Store.list (s : Store) (owner : String) (f : ListFilter) (limit : Nat) : List Record :=
  if limit ≤ Text.maxInt64.toNat then (s.matching owner f).take limit else s.matching owner f

/-- A listing holds exactly the owner's live rows that the filter admits. -/
theorem Store.mem_matching {s : Store} {owner : String} {f : ListFilter} {r : Record} :
    r ∈ s.matching owner f ↔
      r ∈ s.rows ∧ r.owner = owner ∧ r.garbage = false ∧ f.admits r = true := by
  simp [Store.matching, and_assoc]

end ContentStore
