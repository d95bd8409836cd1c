import ContentStore.Proofs.Requests
import ContentStore.Proofs.StoragePaths
import ContentStore.Proofs.Uploads

/-!
# Only storage ids are looked for

Cutting a path ends an operation without an answer where there is no path, and a file tree refuses
a path that could leave its root. Neither happens, since every text that an action cuts into a path
is a storage id. That takes more than a look at each call: the texts come from rows, and from what
links in rows point to, so the form of all of them is kept by every write (`Store.NamesIds`).

A run notes what it cuts in its journal (`Journal.cut`). `x.Handles e s n good` says that these are
storage ids, along with what an operation leaves behind and how it can fail; there is one lemma for
each operation, and `handles_bytesPresent_iff` checks that they could not be had for other texts.
-/

namespace ContentStore

/-! ### The ids of rows -/

/-- The storage ids that a row names, its own and that of its target, are of the right form. -/
structure Record.NamesIds (r : Record) : Prop where
  own : IsStorageId r.storageId
  target : r.linkedObject ≠ "" → IsStorageId r.linkedObject

/-- All rows, garbage or not, name storage ids of the right form. -/
def Store.NamesIds (s : Store) : Prop :=
  ∀ r ∈ s.rows, r.NamesIds

/-- The storage ids that a draft names are of the right form. -/
structure Draft.NamesIds (d : Draft) : Prop where
  own : IsStorageId d.storageId
  target : d.linkedObject ≠ "" → IsStorageId d.linkedObject

theorem Record.NamesIds.realStorageId {r : Record} (names : r.NamesIds) :
    IsStorageId r.realStorageId := by
  unfold Record.realStorageId
  split
  · next isLink => exact names.target (of_decide_eq_true isLink)
  · exact names.own

section Rows

variable {s : Store} {d : Draft} {now : Time.Instant} {key : String} {r : Record}

theorem Draft.NamesIds.written (names : d.NamesIds) : (s.written d now).NamesIds := by
  refine ⟨?_, ?_⟩
  · rw [Store.storageId_written]
    exact names.own
  · rw [Store.linkedObject_written]
    exact names.target

theorem Store.NamesIds.put (names : s.NamesIds) (drafted : d.NamesIds) :
    (s.put d now).NamesIds := by
  intro r row
  rcases mem_put_iff.mp row with rfl | ⟨old, -⟩
  · exact drafted.written
  · exact names r old

theorem Store.NamesIds.markGarbage (names : s.NamesIds) : (s.markGarbage key now).NamesIds := by
  intro r row
  rcases mem_markGarbage_iff.mp row with ⟨r', old, -, -, rfl⟩ | ⟨old, -⟩
  · exact ⟨(names r' old).own, (names r' old).target⟩
  · exact names r old

end Rows

/-! ### What becomes of a run -/

/-- What the file tree refuses a path with that could leave its root. -/
def FileTree.refusedPath (path : String) : Refusal :=
  .backend s!"refusing path `{path}`"

/-- These are the paths that are refused. -/
theorem FileTree.holds_eq_refusedPath_iff {t : FileTree} {root path : String} :
    t.holds root path = .error (refusedPath path) ↔ leavesRoot path = true := by
  unfold holds
  split
  · next leaves => exact iff_of_true rfl leaves
  · next stays =>
      refine iff_of_false ?_ stays
      split
      · simp
      · simp [refusedPath]

/-- The refusal comes from a keeper of bytes. -/
def Refusal.isBackend : Refusal → Bool
  | .backend _ => true
  | _ => false

theorem Refusal.ne_refusedPath {r : Refusal} {path : String} (other : r.isBackend = false) :
    r ≠ FileTree.refusedPath path := by
  rintro rfl
  cases other

/-- How an operation can fail that cuts all its paths from storage ids: a path is refused only if an
outage says so, and no answer at all is given only where a token would outlive the calendar. -/
def Surroundings.Permits (e : Surroundings) : Failure → Prop
  | .refused r => ∀ path, r = FileTree.refusedPath path → ∃ n c, e.outage n c = some (.failed r)
  | .aborted (.noPath _) => False
  | .aborted .endOfTime => e.now.later? e.issuer.seconds = none

theorem permits_of_not_backend {e : Surroundings} {r : Refusal} (other : r.isBackend = false) :
    e.Permits (.refused r) :=
  fun _ same => absurd same (Refusal.ne_refusedPath other)

/-- From one journal to a later one, nothing but storage ids was cut into paths. -/
def Journal.CutsIds (n k : Journal) : Prop :=
  ∃ ids, k.cut = ids ++ n.cut ∧ ∀ id ∈ ids, IsStorageId id

namespace Journal.CutsIds

variable {n k l : Journal}

theorem refl (n : Journal) : n.CutsIds n :=
  ⟨[], rfl, nofun⟩

theorem trans (first : n.CutsIds k) (later : k.CutsIds l) : n.CutsIds l := by
  obtain ⟨ids, cut, areIds⟩ := first
  obtain ⟨ids', cut', areIds'⟩ := later
  refine ⟨ids' ++ ids, ?_, fun id mem => ?_⟩
  · rw [cut', cut, List.append_assoc]
  · exact (List.mem_append.mp mem).elim (areIds' id) (areIds id)

theorem calling (n : Journal) (more : Nat) : n.CutsIds (n.calling more) :=
  ⟨[], rfl, nofun⟩

theorem cutting_iff {id : String} : n.CutsIds (n.cutting id) ↔ IsStorageId id := by
  constructor
  · rintro ⟨ids, cut, areIds⟩
    have same : [id] = ids := List.append_cancel_right cut
    exact areIds id (same ▸ List.mem_singleton_self id)
  · intro isId
    refine ⟨[id], rfl, fun id' mem => ?_⟩
    rwa [List.mem_singleton.mp mem]

theorem isStorageId_of_mem {id : String} (cuts : n.CutsIds k) (start : n.cut = [])
    (mem : id ∈ k.cut) : IsStorageId id := by
  obtain ⟨ids, cut, areIds⟩ := cuts
  rw [cut, start, List.append_nil] at mem
  exact areIds id mem

end Journal.CutsIds

namespace Operation

variable {α β : Type} {e : Surroundings} {s : Store} {n : Journal}

/-- The run ends with an answer of which `good` holds, or with a permitted failure; the rows that it
leaves name storage ids, and storage ids are all that it cuts into paths. -/
def Handles (x : Operation α) (e : Surroundings) (s : Store) (n : Journal) (good : α → Prop) :
    Prop :=
  ∃ result t k, x e ⟨s, n⟩ = (result, ⟨t, k⟩) ∧ n.CutsIds k ∧ t.NamesIds ∧
    match result with
    | .ok a => good a
    | .error f => e.Permits f

/-! ### Rules for sequencing -/

variable {good good' : α → Prop}

theorem Handles.mono {x : Operation α} (handles : x.Handles e s n good)
    (onGood : ∀ a, good a → good' a) : x.Handles e s n good' := by
  obtain ⟨result, t, k, ran, cuts, names, ends⟩ := handles
  refine ⟨result, t, k, ran, cuts, names, ?_⟩
  cases result with
  | ok a => exact onGood a ends
  | error f => exact ends

theorem handles_pure (names : s.NamesIds) {a : α} (holds : good a) :
    (pure a : Operation α).Handles e s n good :=
  ⟨.ok a, s, n, rfl, .refl n, names, holds⟩

theorem handles_fail (names : s.NamesIds) {f : Failure} (permits : e.Permits f) :
    (fail f : Operation α).Handles e s n good :=
  ⟨.error f, s, n, rfl, .refl n, names, permits⟩

theorem handles_refuse (names : s.NamesIds) {r : Refusal} (other : r.isBackend = false) :
    (refuse r : Operation α).Handles e s n good :=
  handles_fail names (permits_of_not_backend other)

/-- Of what is not found, anything can be said. -/
theorem handles_none (names : s.NamesIds) :
    (pure none : Operation (Option α)).Handles e s n fun found => ∀ a, found = some a → good a :=
  handles_pure names nofun

theorem handles_bind {x : Operation α} {f : α → Operation β} {good' : β → Prop}
    (first : x.Handles e s n good)
    (later : ∀ a t k, good a → t.NamesIds → (f a).Handles e t k good') :
    (x >>= f).Handles e s n good' := by
  obtain ⟨result, t, k, ran, cuts, names, ends⟩ := first
  cases result with
  | ok a =>
      obtain ⟨result', t', k', ran', cuts', names', ends'⟩ := later a t k ends names
      refine ⟨result', t', k', ?_, cuts.trans cuts', names', ends'⟩
      rw [bind_run, ran]
      exact ran'
  | error failure =>
      refine ⟨.error failure, t, k, ?_, cuts, names, ends⟩
      rw [bind_run, ran]

/-- Nothing has to be known of the first answer. -/
theorem handles_seq {x : Operation α} {f : α → Operation β} {good' : β → Prop}
    (first : x.Handles e s n fun _ => True)
    (later : ∀ a t k, t.NamesIds → (f a).Handles e t k good') : (x >>= f).Handles e s n good' :=
  handles_bind first fun a t k _ names => later a t k names

theorem handles_map {x : Operation α} {f : α → β} {good' : β → Prop}
    (handles : x.Handles e s n fun a => good' (f a)) : (f <$> x).Handles e s n good' :=
  handles_bind handles fun _ _ _ holds names => handles_pure names holds

theorem handles_ofExcept (names : s.NamesIds) {result : Except Refusal α}
    (error : ∀ r, result = .error r → e.Permits (.refused r)) :
    (ofExcept result).Handles e s n fun _ => True := by
  cases result with
  | ok a => exact handles_pure names trivial
  | error r => exact handles_fail names (error r rfl)

theorem handles_attempt {x : Operation α} {good : Except Refusal α → Prop}
    (handles : x.Handles e s n fun a => good (.ok a))
    (refused : ∀ r, e.Permits (.refused r) → good (.error r)) :
    (attempt x).Handles e s n good := by
  obtain ⟨result, t, k, ran, cuts, names, ends⟩ := handles
  unfold Handles attempt
  rw [ran]
  cases result with
  | ok a => exact ⟨.ok (.ok a), t, k, rfl, cuts, names, ends⟩
  | error failure =>
      cases failure with
      | refused r => exact ⟨.ok (.error r), t, k, rfl, cuts, names, refused r ends⟩
      | aborted why => exact ⟨.error (.aborted why), t, k, rfl, cuts, names, ends⟩

theorem handles_surroundings {good : Surroundings → Prop} (names : s.NamesIds) (holds : good e) :
    surroundings.Handles e s n good :=
  ⟨.ok e, s, n, rfl, .refl n, names, holds⟩

/-! ### Rules for the calls -/

theorem handles_call {c : Call} {body : Surroundings → Store → Except Refusal (α × Store)}
    (names : s.NamesIds) (answered : ∀ a t, body e s = .ok (a, t) → t.NamesIds ∧ good a)
    (refused : ∀ r path, body e s = .error r → r ≠ FileTree.refusedPath path) :
    (call c body).Handles e s n good := by
  unfold Handles call
  cases met : e.outage n.calls c with
  | some o =>
      refine ⟨_, s, n.calling 1, rfl, .calling n 1, names, fun path refusing => ?_⟩
      cases o with
      | late => cases refusing
      | failed r => exact ⟨n.calls, c, met⟩
  | none =>
      dsimp only
      cases ends : body e s with
      | ok answer =>
          obtain ⟨a, t⟩ := answer
          obtain ⟨names', holds⟩ := answered a t ends
          exact ⟨_, t, n.calling 1, rfl, .calling n 1, names', holds⟩
      | error r =>
          refine ⟨_, s, n.calling 1, rfl, .calling n 1, names, fun path refusing => ?_⟩
          exact absurd refusing (refused r path ends)

theorem handles_query {c : Call} {answer : Surroundings → Store → Except Refusal (α × Store)}
    (names : s.NamesIds) (answered : ∀ a t, answer e s = .ok (a, t) → t.NamesIds ∧ good a)
    (refused : ∀ r path, answer e s = .error r → r ≠ FileTree.refusedPath path) :
    (call c fun e s => e.query (answer e s)).Handles e s n good := by
  refine handles_call names (fun a t ran => ?_) fun r path ran => ?_
  · cases connected : e.connection with
    | ready =>
        simp only [Surroundings.query, connected] at ran
        exact answered a t ran
    | blank => simp [Surroundings.query, connected] at ran
    | closed => simp [Surroundings.query, connected] at ran
  · cases connected : e.connection with
    | ready =>
        simp only [Surroundings.query, connected] at ran
        exact refused r path ran
    | blank =>
        simp only [Surroundings.query, connected, Except.error.injEq] at ran
        subst ran
        simp [missingTables, FileTree.refusedPath]
    | closed =>
        simp only [Surroundings.query, connected, Except.error.injEq] at ran
        subst ran
        simp [closedStore, FileTree.refusedPath]

/-- A query that is always answered, and changes no row. -/
theorem handles_reading {c : Call} {answer : Store → α} (names : s.NamesIds)
    (holds : good (answer s)) :
    (call c fun e s => e.query (.ok (answer s, s))).Handles e s n good := by
  refine handles_query names ?_ fun _ _ => nofun
  rintro a t ⟨⟩
  exact ⟨names, holds⟩

theorem handles_find {storageId : String} (names : s.NamesIds) :
    (find storageId).Handles e s n fun row? => ∀ row, row? = some row → row.NamesIds :=
  handles_reading names fun row found => names row (Store.find?_some found).1

theorem handles_candidates {sha256 notOwner : String} (names : s.NamesIds) :
    (candidates sha256 notOwner).Handles e s n fun rows => ∀ row ∈ rows, row.NamesIds :=
  handles_reading names fun row mem => names row (Store.mem_candidates_iff.mp mem).1

theorem handles_list {owner : String} {f : ListFilter} {limit : Nat} (names : s.NamesIds) :
    (list owner f limit).Handles e s n fun _ => True :=
  handles_reading names trivial

theorem handles_write {d : Draft} (names : s.NamesIds) (drafted : d.NamesIds) :
    (write d).Handles e s n fun row => row.NamesIds := by
  refine handles_query names ?_ fun _ _ => nofun
  rintro a t ⟨⟩
  exact ⟨names.put drafted, drafted.written⟩

theorem handles_markGarbage {storageId : String} (names : s.NamesIds) :
    (markGarbage storageId).Handles e s n fun _ => True := by
  refine handles_query names ?_ fun _ _ => nofun
  rintro a t ⟨⟩
  exact ⟨names.markGarbage, trivial⟩

theorem handles_usage {owner : String} {excluding : List String} (names : s.NamesIds) :
    (usage owner excluding).Handles e s n fun _ => True := by
  refine handles_query names ?_ ?_
  · intro total t ran
    split at ran
    · cases ran
      exact ⟨names, trivial⟩
    · cases ran
  · intro r path ran
    split at ran
    · cases ran
    · cases ran
      exact Refusal.ne_refusedPath rfl

theorem handles_checkQuota {owner : String} {excluding : List String} {size : Int}
    (names : s.NamesIds) : (checkQuota owner excluding size).Handles e s n fun _ => True := by
  unfold checkQuota usageAfterWrite quota
  refine handles_seq (handles_seq (handles_usage names) ?_) fun total t k names => ?_
  · exact fun total t k names => handles_pure names trivial
  refine handles_seq (handles_seq (handles_reading names trivial) ?_) ?_
  · intro plan t k names
    refine handles_seq (handles_surroundings names trivial) ?_
    exact fun e' t k names => handles_pure names trivial
  intro allowed t k names
  split
  · exact handles_refuse names rfl
  · exact handles_pure names trivial

/-! ### Probes -/

end Operation

/-- The words about a refused path start with a letter of their own. -/
theorem FileTree.ne_refusedPath {detail path : String} (other : detail.toList.head? ≠ some 'r') :
    Refusal.backend detail ≠ refusedPath path := by
  rintro ⟨⟩
  exact other (by simp [toString])

/-- The path of a storage id is not refused by any keeper of bytes. -/
theorem Backend.holds_ne_refusedPath {b : Backend} {id path : String} {r : Refusal}
    (isId : IsStorageId id) (failed : b.holds (shardedPath id) = .error r) :
    r ≠ FileTree.refusedPath path := by
  cases b with
  | fileTree root tree =>
      rw [holds, FileTree.holds, FileTree.leavesRoot_shardedPath isId] at failed
      simp only [Bool.false_eq_true, if_false] at failed
      split at failed
      · cases failed
      · cases failed
        exact Refusal.ne_refusedPath rfl
  | gateway g =>
      simp only [holds, Gateway.holds] at failed
      split at failed
      · cases failed
        exact FileTree.ne_refusedPath (by decide)
      · unfold Gateway.verdict at failed
        split at failed
        · cases failed
          exact Refusal.ne_refusedPath rfl
        · cases failed
          exact FileTree.ne_refusedPath (by decide)
        · split at failed
          · cases failed
          · split at failed
            · cases failed
            · cases failed
              exact FileTree.ne_refusedPath (by simp [toString])

namespace Operation
variable {α β : Type} {e : Surroundings} {s : Store} {n : Journal}

theorem handles_pathOf {id : String} (names : s.NamesIds) (isId : IsStorageId id) :
    (pathOf id).Handles e s n fun path => path = shardedPath id :=
  ⟨.ok (shardedPath id), s, n.cutting id, pathOf_run (storagePath?_of_isStorageId isId),
    Journal.CutsIds.cutting_iff.mpr isId, names, rfl⟩

theorem handles_bytesPresent {id : String} (names : s.NamesIds) (isId : IsStorageId id) :
    (bytesPresent id).Handles e s n fun _ => True := by
  refine handles_bind (handles_pathOf names isId) fun path t k same names => ?_
  subst same
  refine handles_call names ?_ ?_
  · intro held t ran
    cases asked : e.backend.holds (shardedPath id) with
    | ok b =>
        rw [asked] at ran
        cases ran
        exact ⟨names, trivial⟩
    | error r =>
        rw [asked] at ran
        cases ran
  · intro r path ran
    cases asked : e.backend.holds (shardedPath id) with
    | ok b =>
        rw [asked] at ran
        cases ran
    | error r =>
        rw [asked] at ran
        cases ran
        exact Backend.holds_ne_refusedPath isId asked

/-- However a probe ends, what it looked for is noted. -/
theorem bytesPresent_cut (id : String) (e : Surroundings) (p : Progress) :
    (bytesPresent id e p).2.journal.cut = id :: p.journal.cut := by
  rw [bytesPresent, bind_run, pathOf, bind_run]
  dsimp only [noteCut]
  cases storagePath? id with
  | none => rfl
  | some path =>
      dsimp only [pure_run]
      rw [call]
      dsimp only
      split
      · rfl
      · split <;> rfl

/-- Looking for bytes is told apart by what it looks for. -/
theorem handles_bytesPresent_iff {id : String} (names : s.NamesIds) :
    (bytesPresent id).Handles e s n (fun _ => True) ↔ IsStorageId id := by
  refine ⟨fun handles => ?_, handles_bytesPresent names⟩
  obtain ⟨result, t, k, ran, ⟨ids, cut, areIds⟩, -, -⟩ := handles
  have noted := bytesPresent_cut id e ⟨s, n⟩
  rw [ran] at noted
  exact Journal.CutsIds.cutting_iff.mp ⟨ids, noted.symm.trans cut, areIds⟩

/-! ### Refusals that are no refused paths -/

theorem permits_require {text : String} {r : Refusal}
    (failed : ContentHash.require text = .error r) : e.Permits (.refused r) := by
  rw [ContentHash.require] at failed
  split at failed
  · cases failed
  · cases failed
    exact permits_of_not_backend rfl

theorem permits_effectiveFilter {q : ListRequest} {r : Refusal}
    (failed : q.effectiveFilter = .error r) : e.Permits (.refused r) := by
  cases given : q.filter.sha256 with
  | none =>
      simp only [ListRequest.effectiveFilter, given] at failed
      cases failed
  | some text =>
      simp only [ListRequest.effectiveFilter, given] at failed
      cases required : ContentHash.require text with
      | ok hash =>
          rw [required] at failed
          cases failed
      | error r' =>
          rw [required] at failed
          cases failed
          exact permits_require required

theorem permits_size {m : Metadata} {r : Refusal} (failed : m.size = .error r) :
    e.Permits (.refused r) := by
  unfold Metadata.size normalizeSize givenSize sizeOfText at failed
  have invalid : ∃ reason, r = .invalid reason := by
    grind
  obtain ⟨reason, rfl⟩ := invalid
  exact permits_of_not_backend rfl

/-! ### Granting -/

end Operation

/-- Every grant of the answer is for a storage id. -/
def Granted.NamesIds (g : Granted) : Prop :=
  ∀ grant, g.Gives grant → IsStorageId grant.storageId

/-- The award is for a record that names storage ids, and to be read from one. -/
structure Award.NamesIds (w : Award) : Prop where
  record : w.record.NamesIds
  reads : ∀ id, w.readFrom = some id → IsStorageId id

structure Resolution.NamesIds (r : Resolution) : Prop where
  record : r.record.NamesIds
  real : IsStorageId r.realStorageId

theorem Award.NamesIds.granted {w : Award} {e : Surroundings} {caller : Caller}
    {expiresAt : Time.Instant} (names : w.NamesIds) : (w.granted e caller expiresAt).NamesIds := by
  rintro grant (read | write)
  · obtain ⟨id, reads, rfl⟩ := Option.map_eq_some_iff.mp read
    exact names.reads id reads
  · simp only [Award.granted] at write
    split at write
    · cases write
      exact names.record.own
    · cases write

theorem Resolution.NamesIds.award {r : Resolution} (names : r.NamesIds) : r.award.NamesIds := by
  obtain ⟨record, real⟩ := names
  cases r <;> exact ⟨record, by rintro _ ⟨⟩; exact real⟩

namespace Operation

variable {α β : Type} {e : Surroundings} {s : Store} {n : Journal} {caller : Caller}

theorem handles_award {w : Award} (names : s.NamesIds) (awarded : w.NamesIds) :
    (w.grant caller).Handles e s n Granted.NamesIds := by
  have ran := award_run e caller w ⟨s, n⟩
  cases ends : e.now.later? e.issuer.seconds with
  | none =>
      rw [ends] at ran
      exact ⟨_, s, n, ran, .refl n, names, ends⟩
  | some expiresAt =>
      rw [ends] at ran
      exact ⟨_, s, n, ran, .refl n, names, awarded.granted⟩

theorem handles_grantAccess {record : Record} {readFrom : Option String} {writable : Bool}
    (names : s.NamesIds) (named : record.NamesIds)
    (reads : ∀ id, readFrom = some id → IsStorageId id) :
    (grantAccess caller record readFrom writable).Handles e s n Granted.NamesIds :=
  handles_award (w := ⟨record, readFrom, writable⟩) names ⟨named, reads⟩

theorem handles_grantResolution {r : Resolution} (names : s.NamesIds) (found : r.NamesIds) :
    (grantResolution caller r).Handles e s n Granted.NamesIds := by
  rw [grantResolution_eq]
  exact handles_award names found.award

theorem handles_requireOwner {record : Record} (names : s.NamesIds) :
    (requireOwner caller record).Handles e s n fun _ => True := by
  unfold requireOwner
  split
  · exact handles_pure names trivial
  · exact handles_refuse names rfl

theorem handles_requireSome {a? : Option α} (names : s.NamesIds) :
    (requireSome a?).Handles e s n fun a => a? = some a := by
  cases a? with
  | none => exact handles_refuse names rfl
  | some a => exact handles_pure names rfl

/-! ### Finding bytes -/

theorem handles_follow {link : Record} (names : s.NamesIds) :
    (follow link).Handles e s n Record.NamesIds := by
  unfold follow
  refine handles_bind (handles_find names) fun row? t k found names => ?_
  cases row? with
  | none => exact handles_refuse names rfl
  | some target =>
      dsimp only
      split
      · exact handles_pure names (found target rfl)
      · exact handles_refuse names rfl

/-- What following a link comes to, with a refusal as an answer. -/
theorem handles_attempt_follow {link : Record} (names : s.NamesIds) :
    (attempt (follow link)).Handles e s n fun result =>
      (∀ target, result = .ok target → target.NamesIds) ∧
        ∀ r, result = .error r → e.Permits (.refused r) := by
  refine handles_attempt ((handles_follow names).mono ?_) ?_
  · intro target named
    exact ⟨fun _ same => Except.ok.inj same ▸ named, nofun⟩
  · intro r permits
    exact ⟨nofun, fun _ same => Except.error.inj same ▸ permits⟩

theorem handles_resolveExisting {row : Record} (names : s.NamesIds) (named : row.NamesIds) :
    (resolveExisting row).Handles e s n fun found => ∀ r, found = some r → r.NamesIds := by
  unfold resolveExisting
  split
  · refine handles_bind (handles_attempt_follow names) fun result t k ends names => ?_
    split
    · next target =>
        have target := ends.1 target rfl
        refine handles_seq (handles_bytesPresent names target.own) fun held t k names => ?_
        split
        · refine handles_pure names ?_
          rintro _ ⟨⟩
          exact ⟨named, target.own⟩
        · exact handles_none names
    · exact handles_none names
    · next r _ => exact handles_fail names (ends.2 r rfl)
  · refine handles_seq (handles_bytesPresent names named.own) fun held t k names => ?_
    split
    · refine handles_pure names ?_
      rintro _ ⟨⟩
      exact ⟨named, named.own⟩
    · exact handles_none names

theorem handles_firstPresent {rows : List Record} (names : s.NamesIds)
    (named : ∀ row ∈ rows, row.NamesIds) :
    (firstPresent rows).Handles e s n fun found => ∀ row, found = some row → row.NamesIds := by
  induction rows generalizing s n with
  | nil => exact handles_none names
  | cons row rest ih =>
      obtain ⟨first, later⟩ := List.forall_mem_cons.mp named
      refine handles_seq (handles_bytesPresent names first.own) fun held t k names => ?_
      split
      · refine handles_pure names ?_
        rintro _ ⟨⟩
        exact first
      · exact ih names later

theorem handles_linkElsewhere {owner : String} {hash : ContentHash} {given : Option String}
    {existing : Option Record} (names : s.NamesIds) :
    (linkElsewhere owner hash given existing).Handles e s n Resolution.NamesIds := by
  unfold linkElsewhere
  refine handles_bind (handles_candidates names) fun rows t k named names => ?_
  refine handles_bind (handles_firstPresent names named) fun found t k target names => ?_
  cases found with
  | none => exact handles_refuse names rfl
  | some target' =>
      have target := (target target' rfl).own
      unfold linkTo
      refine handles_seq (handles_checkQuota names) fun _ t k names => ?_
      have drafted : (linkDraft owner hash (linkName given existing target') target').NamesIds :=
        ⟨isStorageId_storageId owner hash, fun _ => target⟩
      refine handles_bind (handles_write names drafted) fun link t k named names => ?_
      exact handles_pure names ⟨named, target⟩

/-- What was found is the end of it, and otherwise a link is made, if that is asked for. -/
theorem handles_onward {owner : String} {hash : ContentHash} {autoLink : Bool}
    {given : Option String} {existing : Option Record} (names : s.NamesIds)
    (found : Option Resolution) :
    (∀ r, found = some r → r.NamesIds) →
      (match found with
        | some resolution => pure resolution
        | none => if autoLink then linkElsewhere owner hash given existing else refuse .noBytes :
        Operation Resolution).Handles e s n Resolution.NamesIds := by
  intro resolved
  cases found with
  | some r => exact handles_pure names (resolved r rfl)
  | none =>
      dsimp only
      split
      · exact handles_linkElsewhere names
      · exact handles_refuse names rfl

theorem handles_resolve {owner : String} {hash : ContentHash} {autoLink : Bool}
    {given : Option String} (names : s.NamesIds) :
    (resolve owner hash autoLink given).Handles e s n Resolution.NamesIds := by
  unfold resolve
  refine handles_bind (handles_find names) fun existing t k named names => ?_
  cases existing with
  | none =>
      have nothing : (pure none : Operation (Option Resolution)).Handles e t k fun found =>
          ∀ r, found = some r → r.NamesIds := handles_none names
      exact handles_bind nothing fun found _ _ resolved names => handles_onward names found resolved
  | some row =>
      refine handles_bind (handles_resolveExisting names (named row rfl)) ?_
      exact fun found _ _ resolved names => handles_onward names found resolved

/-! ### Registering and fetching -/

theorem handles_attempt_resolve {owner : String} {hash : ContentHash} {autoLink : Bool}
    {given : Option String} (names : s.NamesIds) :
    (attempt (resolve owner hash autoLink given)).Handles e s n fun result =>
      (∀ r, result = .ok r → r.NamesIds) ∧ ∀ r, result = .error r → e.Permits (.refused r) := by
  refine handles_attempt ((handles_resolve names).mono ?_) ?_
  · intro r named
    refine ⟨?_, fun _ failed => nomatch failed⟩
    rintro _ ⟨⟩
    exact named
  · intro r permits
    refine ⟨fun _ ok => (nomatch ok), ?_⟩
    rintro _ ⟨⟩
    exact permits

theorem handles_knownBytes {row : Record} (names : s.NamesIds) (named : row.NamesIds) :
    (knownBytes row).Handles e s n fun real => ∀ id, real = some id → IsStorageId id := by
  unfold knownBytes
  split
  · refine handles_bind (handles_attempt_follow names) fun result t k ends names => ?_
    split
    · next target =>
        have target := (ends.1 target rfl).own
        refine handles_seq (handles_bytesPresent names target) fun held t k names => ?_
        split
        · refine handles_pure names ?_
          rintro _ ⟨⟩
          exact target
        · exact handles_none names
    · exact handles_none names
  · refine handles_seq (handles_bytesPresent names named.own) fun held t k names => ?_
    split
    · refine handles_pure names ?_
      rintro _ ⟨⟩
      exact named.own
    · exact handles_none names

theorem handles_tryLink {hash : ContentHash} {m : Metadata} {autoLink : Bool} (names : s.NamesIds) :
    (tryLink caller hash m autoLink).Handles e s n fun found =>
      ∀ r, found = some r → r.NamesIds := by
  unfold tryLink
  split
  · refine handles_bind (handles_attempt_resolve names) fun result t k ends names => ?_
    split
    · next r =>
        refine handles_pure names ?_
        rintro _ ⟨⟩
        exact ends.1 r rfl
    · exact handles_none names
    · next r _ => exact handles_fail names (ends.2 r rfl)
  · exact handles_none names

/-- A row that owns its bytes is written and granted for writing. -/
theorem handles_written {d : Draft} {excluding : List String} {size : Int} (names : s.NamesIds)
    (drafted : d.NamesIds) :
    (do
      checkQuota caller.owner excluding size
      let record ← write d
      grantAccess caller record none true : Operation Granted).Handles e s n Granted.NamesIds := by
  refine handles_seq (handles_checkQuota names) fun _ t k names => ?_
  refine handles_bind (handles_write names drafted) fun record t k named names => ?_
  exact handles_grantAccess names named nofun

theorem handles_registerKnown {hash : ContentHash} {row : Record} {m : Metadata} {size : Int}
    {autoLink : Bool} (names : s.NamesIds) (named : row.NamesIds) :
    (registerKnown caller hash row m size autoLink).Handles e s n Granted.NamesIds := by
  unfold registerKnown
  refine handles_bind (handles_knownBytes names named) fun real t k isId names => ?_
  cases real with
  | some id => exact handles_grantAccess names named isId
  | none =>
      refine handles_bind (handles_tryLink names) fun found t k resolved names => ?_
      cases found with
      | some r => exact handles_grantResolution names (resolved r rfl)
      | none => exact handles_written names ⟨named.own, fun linked => absurd rfl linked⟩

theorem handles_registerNew {hash : ContentHash} {m : Metadata} {size : Int} {autoLink : Bool}
    (names : s.NamesIds) :
    (registerNew caller hash m size autoLink).Handles e s n Granted.NamesIds := by
  unfold registerNew
  refine handles_bind (handles_tryLink names) fun found t k resolved names => ?_
  cases found with
  | some r => exact handles_grantResolution names (resolved r rfl)
  | none =>
      exact handles_written names
        ⟨isStorageId_storageId caller.owner hash, fun linked => absurd rfl linked⟩

theorem handles_register {text : String} {m : Metadata} {autoLink : Bool} (names : s.NamesIds) :
    (register caller text m autoLink).Handles e s n fun done => done.granted.NamesIds := by
  unfold register
  refine handles_seq (handles_ofExcept names fun _ => permits_require) fun hash t k names => ?_
  refine handles_seq (handles_ofExcept names fun _ => permits_size) fun size t k names => ?_
  refine handles_bind (handles_find names) fun row? t k named names => ?_
  cases row? with
  | some row =>
      refine handles_seq (handles_requireOwner names) fun _ t k names => ?_
      refine handles_bind (handles_registerKnown names (named row rfl)) ?_
      exact fun g t k granted names => handles_pure names granted
  | none =>
      refine handles_bind (handles_registerNew names) ?_
      exact fun g t k granted names => handles_pure names granted

theorem handles_fetch {text : String} {autoLink : Bool} (names : s.NamesIds) :
    (fetch caller text autoLink).Handles e s n Granted.NamesIds := by
  unfold fetch
  refine handles_seq (handles_ofExcept names fun _ => permits_require) fun hash t k names => ?_
  refine handles_bind (handles_attempt_resolve names) fun result t k ends names => ?_
  split
  · next resolution =>
      refine handles_seq (handles_requireOwner names) fun _ t k names => ?_
      exact handles_grantResolution names (ends.1 resolution rfl)
  · refine handles_bind (handles_find names) fun row? t k named names => ?_
    cases row? with
    | none => exact handles_refuse names rfl
    | some row =>
        dsimp only
        split
        · exact handles_grantAccess names (named row rfl) nofun
        · exact handles_refuse names rfl
  · next r _ => exact handles_fail names (ends.2 r rfl)

/-! ### Updating, deleting and listing -/

theorem handles_moveContent {row : Record} {newHash : ContentHash} {m : Metadata} {size : Int}
    (names : s.NamesIds) :
    (moveContent caller row newHash m size).Handles e s n Granted.NamesIds := by
  have isId := isStorageId_storageId caller.owner newHash
  have drafted : (row.moved caller.owner newHash m size).NamesIds :=
    ⟨isId, fun linked => absurd rfl linked⟩
  unfold moveContent
  refine handles_seq (handles_checkQuota names) fun _ t k names => ?_
  refine handles_bind (handles_write names drafted) fun record t k named names => ?_
  refine handles_seq (handles_markGarbage names) fun _ t k names => ?_
  refine handles_seq (handles_bytesPresent names isId) fun held t k names => ?_
  split
  · refine handles_grantAccess names named ?_
    rintro _ ⟨⟩
    exact isId
  · exact handles_grantAccess names named nofun

theorem handles_changeInPlace {row : Record} {hash : ContentHash} {m : Metadata} {size : Int}
    (names : s.NamesIds) (named : row.NamesIds) :
    (changeInPlace caller hash row m size).Handles e s n Granted.NamesIds := by
  unfold changeInPlace
  split
  · have drafted : (row.renamed m).NamesIds := ⟨named.own, named.target⟩
    refine handles_bind (handles_write names drafted) fun record t k named names => ?_
    refine handles_grantAccess names named ?_
    rintro _ ⟨⟩
    exact named.realStorageId
  · have drafted : (row.revised m size).NamesIds := ⟨named.own, fun linked => absurd rfl linked⟩
    refine handles_seq (handles_checkQuota names) fun _ t k names => ?_
    refine handles_bind (handles_write names drafted) fun record t k named names => ?_
    refine handles_grantAccess names named ?_
    rintro _ ⟨⟩
    exact isStorageId_storageId caller.owner hash

theorem handles_updateTo {hash : ContentHash} {m : Metadata} {newHash : Option ContentHash}
    (names : s.NamesIds) :
    (updateTo caller hash m newHash).Handles e s n Granted.NamesIds := by
  unfold updateTo
  refine handles_bind (handles_find names) fun row? t k named names => ?_
  refine handles_bind (handles_requireSome names) fun row t k found names => ?_
  refine handles_seq (handles_requireOwner names) fun _ t k names => ?_
  refine handles_seq (handles_ofExcept names ?_) fun size t k names => ?_
  · intro r failed
    unfold Metadata.sizeFor at failed
    split at failed
    · exact permits_size failed
    · cases failed
  · cases newHash with
    | some newHash => exact handles_moveContent names
    | none => exact handles_changeInPlace names (named row found)

theorem handles_update {text : String} {revision : Revision} (names : s.NamesIds) :
    (update caller text revision).Handles e s n Granted.NamesIds := by
  rw [update_eq]
  refine handles_seq (handles_ofExcept names fun _ => permits_require) fun hash t k names => ?_
  cases revision.newHash with
  | none =>
      refine handles_seq (handles_pure names trivial) fun newHash t k names => ?_
      exact handles_updateTo names
  | some newText =>
      refine handles_seq (handles_map ?_) fun newHash t k names => handles_updateTo names
      exact handles_ofExcept names fun _ => permits_require

theorem handles_delete {text : String} (names : s.NamesIds) :
    (delete caller text).Handles e s n fun _ => True := by
  unfold delete
  refine handles_seq (handles_ofExcept names fun _ => permits_require) fun hash t k names => ?_
  refine handles_bind (handles_find names) fun row? t k _ names => ?_
  refine handles_bind (handles_requireSome names) fun row t k _ names => ?_
  refine handles_seq (handles_requireOwner names) fun _ t k names => ?_
  refine handles_seq (handles_markGarbage names) fun found t k names => ?_
  split
  · exact handles_pure names trivial
  · exact handles_refuse names rfl

theorem handles_listPage {q : ListRequest} (names : s.NamesIds) :
    (listPage caller q).Handles e s n fun _ => True := by
  unfold listPage
  refine handles_seq (handles_ofExcept names fun _ => permits_effectiveFilter) fun f t k names => ?_
  exact handles_seq (handles_list names) fun _ t k names => handles_pure names trivial

end Operation

/-! ### Actions -/

theorem Action.handles (a : Action) (caller : Caller) (e : Surroundings) {s : Store} (n : Journal)
    (names : s.NamesIds) :
    (a.run caller).Handles e s n fun answer => ∀ g, a.granted? answer = some g → g.NamesIds := by
  cases a with
  | register text m autoLink =>
      refine (Operation.handles_register names).mono fun done granted g same => ?_
      cases same
      exact granted
  | fetch text autoLink =>
      refine (Operation.handles_fetch names).mono fun g' granted g same => ?_
      cases same
      exact granted
  | update text revision =>
      refine (Operation.handles_update names).mono fun g' granted g same => ?_
      cases same
      exact granted
  | delete text => exact (Operation.handles_delete names).mono fun _ _ g none => nomatch none
  | list q => exact (Operation.handles_listPage names).mono fun _ _ g none => nomatch none

/-! ### Answers over HTTP -/

/-- The storage ids of the grants, that for reading before that for writing. -/
def Granted.ids (g : Granted) : List String :=
  (g.read.toList ++ g.write.toList).map (·.storageId)

theorem Granted.mem_ids {g : Granted} {grant : Grant} (gives : g.Gives grant) :
    grant.storageId ∈ g.ids := by
  refine List.mem_map_of_mem (List.mem_append.mpr ?_)
  exact gives.imp Option.mem_toList.mpr Option.mem_toList.mpr

theorem Granted.NamesIds.isStorageId_of_mem {g : Granted} {id : String} (names : g.NamesIds)
    (mem : id ∈ g.ids) : IsStorageId id := by
  obtain ⟨grant, given, rfl⟩ := List.mem_map.mp mem
  exact names grant ((List.mem_append.mp given).imp Option.mem_toList.mp Option.mem_toList.mp)

namespace Operation

variable {e : Surroundings} {s : Store} {n : Journal}

/-- Writing down a URL cuts the storage id of its grant. -/
theorem urlOf?_run {grant? : Option Grant}
    (isId : ∀ grant, grant? = some grant → IsStorageId grant.storageId) :
    ∃ url?, urlOf? grant? e ⟨s, n⟩ =
      (.ok url?, ⟨s, n.calls, grant?.toList.map (·.storageId) ++ n.cut⟩) := by
  cases grant? with
  | none => exact ⟨none, rfl⟩
  | some grant =>
      rw [urlOf?, map_run, url, bind_run, pathOf_run (storagePath?_of_isStorageId (isId grant rfl))]
      exact ⟨_, rfl⟩

theorem grantedBody_run {g : Granted} (granted : g.NamesIds) :
    ∃ body, grantedBody g e ⟨s, n⟩ = (.ok body, ⟨s, n.calls, g.ids ++ n.cut⟩) := by
  obtain ⟨writeUrl, wrote⟩ :=
    urlOf?_run (e := e) (s := s) (n := n) fun grant given => granted grant (.inr given)
  obtain ⟨readUrl, read⟩ := urlOf?_run (e := e) (s := s)
    (n := ⟨n.calls, g.write.toList.map (·.storageId) ++ n.cut⟩)
    fun grant given => granted grant (.inl given)
  rw [grantedBody, bind_run, wrote]
  dsimp only
  rw [bind_run, read, Granted.ids, List.map_append, List.append_assoc]
  exact ⟨_, rfl⟩

end Operation

namespace Action

variable {e : Surroundings} {s t : Store} {n k : Journal} {caller : Caller} {a : Action}

/-- The storage ids that the reply to an answer cuts: those of the grants that it passes on. -/
def replyIds (a : Action) (answer : a.Answer) : List String :=
  (a.granted? answer).elim [] Granted.ids

theorem reply_run {answer : a.Answer} (granted : ∀ g, a.granted? answer = some g → g.NamesIds) :
    ∃ response, a.reply answer e ⟨s, n⟩ =
      (.ok response, ⟨s, n.calls, a.replyIds answer ++ n.cut⟩) := by
  cases a with
  | register text m autoLink =>
      obtain ⟨body, ran⟩ := Operation.grantedBody_run (granted _ rfl)
      exact ⟨_, by rw [reply, Operation.bind_run, ran]; rfl⟩
  | fetch text autoLink =>
      obtain ⟨body, ran⟩ := Operation.grantedBody_run (granted _ rfl)
      exact ⟨_, by rw [reply, Operation.bind_run, ran]; rfl⟩
  | update text revision =>
      obtain ⟨body, ran⟩ := Operation.grantedBody_run (granted _ rfl)
      exact ⟨_, by rw [reply, Operation.bind_run, ran]; rfl⟩
  | delete text => exact ⟨_, rfl⟩
  | list q => exact ⟨_, rfl⟩

/-- Over HTTP an answer is passed on with the URLs of its grants. -/
theorem respond_run {answer : a.Answer} (ran : a.run caller e ⟨s, n⟩ = (.ok answer, ⟨t, k⟩))
    (granted : ∀ g, a.granted? answer = some g → g.NamesIds) :
    ∃ response, a.respond caller e ⟨s, n⟩ =
      (.ok response, ⟨t, k.calls, a.replyIds answer ++ k.cut⟩) := by
  obtain ⟨response, replied⟩ := reply_run (e := e) (s := t) (n := k) granted
  refine ⟨response, ?_⟩
  rw [respond, Operation.answered, Operation.bind_run, Operation.attempt, Operation.bind_run, ran]
  dsimp only
  rw [replied]
  rfl

theorem handles_respond (a : Action) (caller : Caller) (e : Surroundings) {s : Store} (n : Journal)
    (names : s.NamesIds) : (a.respond caller).Handles e s n fun _ => True := by
  obtain ⟨result, t, k, ran, cuts, names', ends⟩ := a.handles caller e n names
  cases result with
  | ok answer =>
      obtain ⟨response, responded⟩ := respond_run ran ends
      refine ⟨_, t, _, responded, cuts.trans ⟨_, rfl, fun id mem => ?_⟩, names', trivial⟩
      unfold replyIds at mem
      cases given : a.granted? answer with
      | none =>
          rw [given] at mem
          cases mem
      | some g =>
          rw [given] at mem
          exact (ends g given).isStorageId_of_mem mem
  | error failure =>
      unfold Operation.Handles respond Operation.answered
      rw [Operation.bind_run, Operation.attempt, Operation.bind_run, ran]
      cases failure with
      | refused r => exact ⟨_, t, k, rfl, cuts, names', trivial⟩
      | aborted why => exact ⟨_, t, k, rfl, cuts, names', ends⟩

end Action

/-! ### Runs -/

theorem Store.LeadsTo.namesIds {s : Store} (reached : Store.empty.LeadsTo s) : s.NamesIds := by
  induction reached with
  | here => exact fun r row => nomatch row
  | @act t e caller a _ ih =>
      obtain ⟨result, t', k, ran, -, names, -⟩ := a.handles caller e 0 ih
      rw [a.after_eq_run, ran]
      exact names
  | plan _ ih => exact ih

/-- A failure that is permitted does not come from a missing path. -/
theorem Operation.Handles.ne_noPath {α : Type} {x : Operation α} {e : Surroundings} {s : Store}
    {n : Journal} {good : α → Prop} (handles : x.Handles e s n good) (id : String) :
    (x e ⟨s, n⟩).1 ≠ .error (.aborted (.noPath id)) := by
  obtain ⟨result, t, k, ran, -, -, ends⟩ := handles
  rw [ran]
  rintro rfl
  exact ends

/-- The storage ids that a run cuts into paths, the last one first; some calls may have been made
before. -/
def Operation.cuts {α : Type} (x : Operation α) (e : Surroundings) (s : Store) (calls : Nat) :
    List String :=
  (x e ⟨s, calls, []⟩).2.journal.cut

theorem Operation.Handles.isStorageId_of_mem_cuts {α : Type} {x : Operation α} {e : Surroundings}
    {s : Store} {calls : Nat} {good : α → Prop} (handles : x.Handles e s ⟨calls, []⟩ good)
    {id : String} (mem : id ∈ x.cuts e s calls) : IsStorageId id := by
  obtain ⟨result, t, k, ran, cuts, -, -⟩ := handles
  rw [Operation.cuts, ran] at mem
  exact cuts.isStorageId_of_mem rfl mem

/-- **Only storage ids are looked for, and all of them have paths.** In every store that a run leads
to, all rows and all links name storage ids. Every text that an action then cuts into a path, for a
probe or, over HTTP, for the URL of a grant, is a storage id, with two folders in front of it in its
path, which stays below the root. So no action ends, here or over HTTP, for want of a path, and no
path is refused, unless an outage says so. The storage id of each grant that is given out is among
these texts, and its URL has that path. -/
theorem only_storage_ids_looked_for {s : Store} (reached : Store.empty.LeadsTo s) (e : Surroundings)
    (caller : Caller) (a : Action) (calls : Nat) :
    s.NamesIds ∧
    (∀ id, id ∈ (a.run caller).cuts e s calls ∨ id ∈ (a.respond caller).cuts e s calls →
      IsStorageId id ∧ storagePath? id = some (shardedPath id) ∧
        FileTree.leavesRoot (shardedPath id) = false) ∧
    (∀ id, (a.run caller e ⟨s, calls, []⟩).1 ≠ .error (.aborted (.noPath id)) ∧
      (a.respond caller e ⟨s, calls, []⟩).1 ≠ .error (.aborted (.noPath id))) ∧
    (∀ path, (∀ k c, e.outage k c ≠ some (.failed (FileTree.refusedPath path))) →
      (a.run caller e ⟨s, calls, []⟩).1 ≠ .error (.refused (FileTree.refusedPath path))) ∧
    ∀ answer g grant, (a.run caller e ⟨s, calls, []⟩).1 = .ok answer →
      a.granted? answer = some g → g.Gives grant →
        grant.storageId ∈ (a.respond caller).cuts e s calls ∧
          e.issuer.url? grant = some (e.issuer.publicUrl ++ "/" ++ shardedPath grant.storageId ++
            "?token=" ++ e.issuer.token grant) := by
  have names := reached.namesIds
  have handles := a.handles caller e ⟨calls, []⟩ names
  have responds := a.handles_respond caller e ⟨calls, []⟩ names
  refine ⟨names, fun id cut => ?_, fun id => ⟨?_, ?_⟩, fun path honest => ?_, ?_⟩
  · have isId : IsStorageId id :=
      cut.elim handles.isStorageId_of_mem_cuts responds.isStorageId_of_mem_cuts
    exact ⟨isId, storagePath?_of_isStorageId isId, FileTree.leavesRoot_shardedPath isId⟩
  · exact handles.ne_noPath id
  · exact responds.ne_noPath id
  · obtain ⟨result, t, k, ran, -, -, ends⟩ := handles
    rw [ran]
    rintro rfl
    obtain ⟨k, c, met⟩ := ends path rfl
    exact honest k c met
  · intro answer g grant answered granted gives
    obtain ⟨result, t, k, ran, -, -, ends⟩ := handles
    rw [ran] at answered
    obtain rfl : result = .ok answer := answered
    obtain ⟨response, responded⟩ := Action.respond_run ran ends
    refine ⟨?_, Issuer.url?_of_isStorageId (ends g granted grant gives)⟩
    rw [Operation.cuts, responded, Action.replyIds, granted]
    exact List.mem_append_left _ (Granted.mem_ids gives)

set_option maxRecDepth 10000 in
/-- Bob links to bytes of Ann's: they are looked for once, and once more named in a URL. -/
theorem only_storage_ids_looked_for_linking :
    let s := (Action.register ContentHash.zeros.hex .empty false).after .ann (.calm .empty) .empty
    let a := Action.register ContentHash.zeros.hex .empty true
    let id := storageId "ann" .zeros
    (a.run .bob).cuts .stocked s 0 = [id] ∧ (a.respond .bob).cuts .stocked s 0 = [id, id] ∧
      IsStorageId id ∧ storagePath? id = some (shardedPath id) ∧
      FileTree.leavesRoot (shardedPath id) = false ∧
      ∀ other, (a.respond .bob .stocked ⟨s, 0⟩).1 ≠ .error (.aborted (.noPath other)) := by
  intro s a id
  have cut : (a.run .bob).cuts .stocked s 0 = [id] ∧
      (a.respond .bob).cuts .stocked s 0 = [id, id] := by
    decide +kernel
  have reached : Store.empty.LeadsTo s := .act .here
  obtain ⟨-, forms, answers, -⟩ := only_storage_ids_looked_for reached .stocked .bob a 0
  obtain ⟨isId, path, stays⟩ := forms id (.inl (by rw [cut.1]; exact List.mem_singleton_self id))
  exact ⟨cut.1, cut.2, isId, path, stays, fun other => (answers other).2⟩

end ContentStore
