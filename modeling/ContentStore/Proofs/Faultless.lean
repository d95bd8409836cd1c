import ContentStore.Proofs.Reachable
import ContentStore.Proofs.Runs

/-!
# Operations that meet no fault

`x.Yields e s result s'`: however many calls were made before, `x` run from `s` ends with `result`
and leaves `s'`. Where `Ensures` allows for all the ways in which calls can fail, this says how far
a run gets, and so it needs surroundings in which its calls are carried out. Queries and writes are,
if no call meets an outage and the tables can be asked. Whether bytes are present is a question to
the backend, which may fail at one path and not at another; `Faultless` asks that it does not fail
for anybody's copy of the content in question.

The rules lead up to the answers of whole actions: what registering and fetching come to for a row
that leads to bytes and for one that waits for them, and that without a live row fetching, updating
and deleting are refused.
-/

namespace ContentStore

/-- The backend says whether the bytes for a storage id are present. -/
def Surroundings.Tells (e : Surroundings) (storageId : String) : Prop :=
  ∃ path, storagePath? storageId = some path ∧ e.backend.holds path = .ok (e.holds storageId)

/-- The backend says whether the bytes that a row leads to are present. -/
structure Surroundings.TellsOf (e : Surroundings) (s : Store) (row : Record) : Prop where
  own : row.isLink = false → e.Tells row.storageId
  aim : row.isLink = true → ∀ target, s.target? row = some target → e.Tells target.storageId

/-- Every call is carried out, and the backend says of everybody's copy of the content whether its
bytes are present. -/
structure Surroundings.Faultless (e : Surroundings) (used : Set (String × ContentHash))
    (hash : ContentHash) : Prop where
  carries : ∀ n c, e.Carries n c
  tells : ∀ owner, (owner, hash) ∈ used → e.Tells (storageId owner hash)

/-- What resolving finds for the owner's live row. -/
def Surroundings.existing? (e : Surroundings) (s : Store) (row : Record) : Option Resolution :=
  if row.isLink then
    ((s.target? row).filter fun target => e.holds target.storageId).map (.link row)
  else if e.holds row.storageId then some (.backed row)
  else none

section Faultless

variable {used : Set (String × ContentHash)} {e : Surroundings} {s : Store} {row target : Record}
  {hash : ContentHash} {owner id path : String}

theorem Surroundings.tells_of_holds (cut : storagePath? id = some path) {held : Bool}
    (answered : e.backend.holds path = .ok held) : e.Tells id ∧ e.holds id = held := by
  have here : e.holds id = held := by
    simp [Surroundings.holds, cut, answered]
  exact ⟨⟨path, cut, by rw [here, answered]⟩, here⟩

theorem Surroundings.tells_of_told {held : Bool}
    (told : (storagePath? id).map e.backend.holds = some (.ok held)) :
    e.Tells id ∧ e.holds id = held := by
  obtain ⟨path, cut, answered⟩ := Option.map_eq_some_iff.mp told
  exact tells_of_holds cut answered

theorem Surroundings.tells_of_held (held : e.holds id = true) : e.Tells id := by
  unfold holds at held
  split at held
  · next there told => exact (tells_of_told told).1
  · cases held

theorem Surroundings.holds_congr {e' : Surroundings} (sameFiles : e'.backend = e.backend) :
    e'.holds = e.holds := by
  funext id
  unfold holds
  rw [sameFiles]

theorem Surroundings.bytesOf?_congr {e' : Surroundings} (sameFiles : e'.backend = e.backend) :
    e'.bytesOf? s row = e.bytesOf? s row := by
  unfold bytesOf?
  rw [holds_congr sameFiles]

theorem Surroundings.existing?_congr {e' : Surroundings} (sameFiles : e'.backend = e.backend) :
    e'.existing? s row = e.existing? s row := by
  unfold existing?
  rw [holds_congr sameFiles]

theorem Surroundings.candid_of_carries (carries : ∀ n c, e.Carries n c) : e.Candid := by
  intro n c met
  rw [(carries n c).1] at met
  cases met

namespace Surroundings.Faultless

/-- Fewer owners may have copies. -/
theorem mono {fewer : Set (String × ContentHash)} (faultless : e.Faultless used hash)
    (subset : fewer ⊆ used) : e.Faultless fewer hash :=
  ⟨faultless.carries, fun owner mem => faultless.tells owner (subset mem)⟩

/-- The time has no part in it. -/
theorem later (faultless : e.Faultless used hash) (now : Time.Instant) :
    Surroundings.Faultless { e with now := now } used hash := by
  refine ⟨faultless.carries, fun owner mem => ?_⟩
  obtain ⟨path, cut, answered⟩ := faultless.tells owner mem
  exact (tells_of_holds cut answered).1

theorem tells_row (faultless : e.Faultless used hash) (wellFormed : s.WellFormed used)
    (mem : row ∈ s.rows) (content : row.sha256 = hash.hex) : e.Tells row.storageId := by
  obtain ⟨copy, keyed⟩ := wellFormed.key_of_content mem content
  rw [keyed]
  exact faultless.tells row.owner copy

theorem tellsOf (faultless : e.Faultless used hash) (wellFormed : s.WellFormed used)
    (mem : row ∈ s.rows) (content : row.sha256 = hash.hex) : e.TellsOf s row := by
  refine ⟨fun _ => faultless.tells_row wellFormed mem content, fun _ target aims => ?_⟩
  obtain ⟨found, -, same⟩ := Store.target?_eq_some_iff.mp aims
  exact faultless.tells_row wellFormed (Store.find?_some found).1 (same.trans content)

theorem tells_candidate (faultless : e.Faultless used hash) (wellFormed : s.WellFormed used)
    (mem : row ∈ s.candidates hash.hex owner) : e.Tells row.storageId := by
  obtain ⟨old, content, -⟩ := Store.mem_candidates_iff.mp mem
  exact faultless.tells_row wellFormed old content

end Surroundings.Faultless

/-! ### Where rows lead -/

theorem Surroundings.existing?_own (own : row.isLink = false) :
    e.existing? s row = if e.holds row.storageId then some (.backed row) else none := by
  simp [existing?, own]

theorem Surroundings.existing?_link (link : row.isLink = true)
    (found : s.target? row = some target) :
    e.existing? s row = if e.holds target.storageId then some (.link row target) else none := by
  cases held : e.holds target.storageId <;> simp [existing?, link, found, held, Option.filter]

theorem Surroundings.existing?_lost (link : row.isLink = true) (lost : s.target? row = none) :
    e.existing? s row = none := by
  simp [existing?, link, lost]

theorem Surroundings.existing?_eq_none_iff :
    e.existing? s row = none ↔ e.bytesOf? s row = none := by
  cases isLink : row.isLink with
  | false =>
      rw [e.existing?_own isLink, e.bytesOf?_own isLink]
      cases e.holds row.storageId <;> simp
  | true =>
      cases aims : s.target? row with
      | none => rw [e.existing?_lost isLink aims, e.bytesOf?_lost isLink aims]; simp
      | some target =>
          rw [e.existing?_link isLink aims, e.bytesOf?_link isLink aims]
          cases e.holds target.storageId <;> simp

/-- Where a row leads to bytes, the backend can tell. -/
theorem Surroundings.tellsOf_of_existing? {r : Resolution} (found : e.existing? s row = some r) :
    e.TellsOf s row := by
  constructor
  · intro own
    rw [e.existing?_own own] at found
    split at found
    · next held => exact tells_of_held held
    · cases found
  · intro link target aims
    rw [e.existing?_link link aims] at found
    split at found
    · next held => exact tells_of_held held
    · cases found

/-- Where a row leads to bytes, resolving finds the row, to be read from there. -/
theorem Surroundings.existing?_of_bytesOf? {real : String} (leads : e.bytesOf? s row = some real) :
    ∃ r, e.existing? s row = some r ∧ r.record = row ∧ r.award = ⟨row, some real, !row.isLink⟩ := by
  cases isLink : row.isLink with
  | false =>
      rw [e.bytesOf?_own isLink] at leads
      split at leads
      · next held =>
          cases leads
          exact ⟨_, by rw [e.existing?_own isLink, if_pos held], rfl, rfl⟩
      · cases leads
  | true =>
      cases aims : s.target? row with
      | none =>
          rw [e.bytesOf?_lost isLink aims] at leads
          cases leads
      | some target =>
          rw [e.bytesOf?_link isLink aims] at leads
          split at leads
          · next held =>
              cases leads
              exact ⟨_, by rw [e.existing?_link isLink aims, if_pos held], rfl, rfl⟩
          · cases leads

end Faultless

namespace Operation

variable {α β : Type} {e : Surroundings} {s s' t : Store}

/-- Every run from `s` ends with this result and leaves `s'`. -/
def Yields (x : Operation α) (e : Surroundings) (s : Store) (result : Except Failure α)
    (s' : Store) : Prop :=
  ∀ n, ∃ k, x e ⟨s, n⟩ = (result, ⟨s', k⟩)

theorem Yields.result {x : Operation α} {result : Except Failure α}
    (yields : x.Yields e s result s') (n : Journal) : (x e ⟨s, n⟩).1 = result := by
  obtain ⟨k, ran⟩ := yields n
  rw [ran]

theorem Yields.left {x : Operation α} {result : Except Failure α}
    (yields : x.Yields e s result s') (n : Journal) : (x e ⟨s, n⟩).2.store = s' := by
  obtain ⟨k, ran⟩ := yields n
  rw [ran]

/-! ### Rules for sequencing -/

theorem yields_pure (a : α) : (pure a : Operation α).Yields e s (.ok a) s :=
  fun n => ⟨n, rfl⟩

theorem yields_refuse (r : Refusal) : (refuse r : Operation α).Yields e s (.error (.refused r)) s :=
  fun n => ⟨n, rfl⟩

theorem yields_bind {x : Operation α} {f : α → Operation β} {a : α} {result : Except Failure β}
    (first : x.Yields e s (.ok a) t) (later : (f a).Yields e t result s') :
    (x >>= f).Yields e s result s' := by
  intro n
  obtain ⟨k, ran⟩ := first n
  obtain ⟨k', ran'⟩ := later k
  exact ⟨k', by rw [bind_run, ran]; exact ran'⟩

theorem yields_bind_error {x : Operation α} {f : α → Operation β} {failure : Failure}
    (first : x.Yields e s (.error failure) s') : (x >>= f).Yields e s (.error failure) s' := by
  intro n
  obtain ⟨k, ran⟩ := first n
  exact ⟨k, by rw [bind_run, ran]⟩

theorem yields_ofExcept {result : Except Refusal α} {a : α} (ok : result = .ok a) :
    (ofExcept result).Yields e s (.ok a) s := by
  rw [ok]
  exact yields_pure a

theorem yields_ofExcept_error {result : Except Refusal α} {r : Refusal}
    (error : result = .error r) :
    (ofExcept result).Yields e s (.error (.refused r)) s := by
  rw [error]
  exact yields_refuse r

theorem yields_attempt_ok {x : Operation α} {a : α} (yields : x.Yields e s (.ok a) s') :
    (attempt x).Yields e s (.ok (.ok a)) s' := by
  intro n
  obtain ⟨k, ran⟩ := yields n
  exact ⟨k, by rw [attempt, ran]⟩

theorem yields_attempt_refused {x : Operation α} {r : Refusal}
    (yields : x.Yields e s (.error (.refused r)) s') :
    (attempt x).Yields e s (.ok (.error r)) s' := by
  intro n
  obtain ⟨k, ran⟩ := yields n
  exact ⟨k, by rw [attempt, ran]⟩

/-! ### Rules for the calls -/

section Calls

variable (carries : ∀ n c, e.Carries n c)

include carries

theorem yields_find (id : String) : (find id).Yields e s (.ok (s.find? id)) s := by
  intro n
  rcases find_run e s n id with ⟨-, ran⟩ | ⟨hit, -⟩
  · exact ⟨_, ran⟩
  · exact absurd (carries _ _) hit

theorem yields_write (d : Draft) :
    (write d).Yields e s (.ok (s.written d e.now)) (s.put d e.now) := by
  intro n
  rcases write_run e s n d with ⟨-, ran⟩ | ⟨hit, -⟩
  · exact ⟨_, ran⟩
  · exact absurd (carries _ _) hit

theorem yields_markGarbage (id : String) :
    (markGarbage id).Yields e s (.ok (s.find? id).isSome) (s.markGarbage id e.now) := by
  intro n
  rcases markGarbage_run e s n id with ⟨-, ran⟩ | ⟨hit, -⟩
  · exact ⟨_, ran⟩
  · exact absurd (carries _ _) hit

theorem yields_candidates (sha256 notOwner : String) :
    (candidates sha256 notOwner).Yields e s (.ok (s.candidates sha256 notOwner)) s := by
  intro n
  rcases query_run e s n (c := .candidates sha256) rfl
    (fun _ s => .ok (s.candidates sha256 notOwner, s)) with ⟨-, ran⟩ | ⟨hit, -⟩
  · exact ⟨_, ran⟩
  · exact absurd (carries _ _) hit

theorem yields_checkQuota {owner : String} {excluding : List String} {size : Int}
    (admits : e.Admits s owner excluding size) :
    (checkQuota owner excluding size).Yields e s (.ok ()) s := by
  intro n
  rcases checkQuota_run e s n owner excluding size with ⟨-, ran⟩ | ⟨rejected, -⟩
  · exact ⟨_, ran⟩
  · exact absurd ⟨carries _ _, carries _ _, admits⟩ rejected

theorem yields_usage {owner : String} {excluding : List String} {total : Int}
    (counted : s.usage? owner excluding = some total) :
    (usage owner excluding).Yields e s (.ok total) s := by
  intro n
  rcases usage_run e s n owner excluding with ⟨-, ran⟩ | ⟨hit, -⟩
  · rw [counted] at ran
    exact ⟨_, ran⟩
  · exact absurd (carries _ _) hit

theorem yields_quota (owner : String) : (quota owner).Yields e s (.ok (e.quotaOf s owner)) s := by
  intro n
  rcases quota_run e s n owner with ⟨-, ran⟩ | ⟨hit, -⟩
  · exact ⟨_, ran⟩
  · exact absurd (carries _ _) hit

theorem yields_checkQuota_exceeded {owner : String} {excluding : List String} {size total : Int}
    (counted : s.usage? owner excluding = some total)
    (exceeds : e.quotaOf s owner < saturatingAdd total size) :
    (checkQuota owner excluding size).Yields e s
      (.error (.refused (.overQuota (saturatingAdd total size) (e.quotaOf s owner)))) s := by
  unfold checkQuota usageAfterWrite
  refine yields_bind (yields_bind (yields_usage carries counted) (yields_pure _)) ?_
  refine yields_bind (yields_quota carries owner) ?_
  rw [if_pos exceeds]
  exact yields_refuse _

theorem yields_checkQuota_uncounted {owner : String} {excluding : List String} {size : Int}
    (uncounted : s.usage? owner excluding = none) :
    (checkQuota owner excluding size).Yields e s (.error (.refused sumOverflow)) s :=
  fun n => ⟨n.calling 1, checkQuota_run_of_overflow e s n (carries _ _) uncounted⟩

theorem yields_bytesPresent {id : String} (tells : e.Tells id) :
    (bytesPresent id).Yields e s (.ok (e.holds id)) s := by
  obtain ⟨path, cut, answered⟩ := tells
  intro n
  refine ⟨(n.cutting id).calling 1, ?_⟩
  simp only [bytesPresent, bind_run, pathOf_run cut, call, (carries _ (.probe id)).1, answered,
    Except.map]

/-! ### Finding bytes -/

theorem yields_follow_found {link target : Record} (found : s.target? link = some target) :
    (follow link).Yields e s (.ok target) s := by
  obtain ⟨live, own, same⟩ := Store.target?_eq_some_iff.mp found
  have fits : target.isTargetOf link = true := by simp [Record.isTargetOf, own, same]
  unfold follow
  refine yields_bind (yields_find carries _) ?_
  rw [live]
  dsimp only
  rw [if_pos fits]
  exact yields_pure target

theorem yields_follow_lost {link : Record} (lost : s.target? link = none) :
    (follow link).Yields e s (.error (.refused .noBytes)) s := by
  unfold follow
  refine yields_bind (yields_find carries _) ?_
  cases live : s.find? link.linkedObject with
  | none => exact yields_refuse _
  | some target =>
      have unfit : ¬target.isTargetOf link = true := by
        intro fits
        simp [Store.target?, live, fits] at lost
      dsimp only
      rw [if_neg unfit]
      exact yields_refuse _

/-- Something is found exactly if its bytes are present. -/
theorem yields_ifPresent {id : String} (a : α) (tells : e.Tells id) :
    (do if ← bytesPresent id then return some a else return none : Operation (Option α)).Yields e s
      (.ok (if e.holds id then some a else none)) s := by
  refine yields_bind (yields_bytesPresent carries tells) ?_
  cases e.holds id <;> exact yields_pure _

/-- The bytes that a known record leads to are found as `bytesOf?` says. -/
theorem yields_knownBytes {row : Record} (tells : e.TellsOf s row) :
    (knownBytes row).Yields e s (.ok (e.bytesOf? s row)) s := by
  unfold knownBytes
  cases isLink : row.isLink with
  | false =>
      rw [if_neg Bool.false_ne_true, e.bytesOf?_own isLink]
      exact yields_ifPresent carries _ (tells.own isLink)
  | true =>
      rw [if_pos rfl]
      cases aims : s.target? row with
      | none =>
          rw [e.bytesOf?_lost isLink aims]
          exact yields_bind (yields_attempt_refused (yields_follow_lost carries aims))
            (yields_pure _)
      | some target =>
          rw [e.bytesOf?_link isLink aims]
          exact yields_bind (yields_attempt_ok (yields_follow_found carries aims))
            (yields_ifPresent carries _ (tells.aim isLink target aims))

theorem yields_resolveExisting {row : Record} (tells : e.TellsOf s row) :
    (resolveExisting row).Yields e s (.ok (e.existing? s row)) s := by
  unfold resolveExisting
  cases isLink : row.isLink with
  | false =>
      rw [if_neg Bool.false_ne_true, e.existing?_own isLink]
      exact yields_ifPresent carries _ (tells.own isLink)
  | true =>
      rw [if_pos rfl]
      cases aims : s.target? row with
      | none =>
          rw [e.existing?_lost isLink aims]
          exact yields_bind (yields_attempt_refused (yields_follow_lost carries aims))
            (yields_pure _)
      | some target =>
          rw [e.existing?_link isLink aims]
          exact yields_bind (yields_attempt_ok (yields_follow_found carries aims))
            (yields_ifPresent carries _ (tells.aim isLink target aims))

theorem yields_firstPresent {records : List Record} (tells : ∀ r ∈ records, e.Tells r.storageId) :
    (firstPresent records).Yields e s (.ok (records.find? fun r => e.holds r.storageId)) s := by
  induction records with
  | nil => exact yields_pure none
  | cons r rest ih =>
      obtain ⟨first, later⟩ := List.forall_mem_cons.mp tells
      unfold firstPresent
      refine yields_bind (yields_bytesPresent carries first) ?_
      cases held : e.holds r.storageId with
      | true =>
          rw [List.find?_cons_of_pos (by simpa using held)]
          exact yields_pure _
      | false =>
          rw [List.find?_cons_of_neg (by simp [held])]
          exact ih later

variable {owner : String} {hash : ContentHash} {given : Option String} {autoLink : Bool}

/-- Resolving finds the bytes that the owner's live row leads to. -/
theorem yields_resolve_found {row : Record} {r : Resolution}
    (live : s.find? (storageId owner hash) = some row) (tells : e.TellsOf s row)
    (found : e.existing? s row = some r) :
    (resolve owner hash autoLink given).Yields e s (.ok r) s := by
  unfold resolve
  refine yields_bind (yields_find carries _) ?_
  rw [live]
  refine yields_bind (yields_resolveExisting carries tells) ?_
  rw [found]
  exact yields_pure r

/-- Where the owner's live row leads nowhere, resolving ends as the search elsewhere does. -/
theorem yields_resolve_onward {result : Except Failure Resolution}
    (lacks : ∀ row, s.find? (storageId owner hash) = some row →
      e.TellsOf s row ∧ e.bytesOf? s row = none)
    (onward : (if autoLink then linkElsewhere owner hash given (s.find? (storageId owner hash))
      else refuse .noBytes).Yields e s result s') :
    (resolve owner hash autoLink given).Yields e s result s' := by
  unfold resolve
  refine yields_bind (yields_find carries _) ?_
  cases live : s.find? (storageId owner hash) with
  | none =>
      rw [live] at onward
      exact yields_bind (yields_pure none) onward
  | some row =>
      obtain ⟨tells, lost⟩ := lacks row live
      refine yields_bind (yields_resolveExisting carries tells) ?_
      rw [Surroundings.existing?_eq_none_iff.mpr lost]
      rw [live] at onward
      exact onward

/-- The search elsewhere goes to the first candidate whose bytes are present, if there is one. -/
theorem yields_linkElsewhere {existing : Option Record} {result : Except Failure Resolution}
    (tells : ∀ r ∈ s.candidates hash.hex owner, e.Tells r.storageId)
    (ends : (match e.source? s owner hash with
      | none => refuse .noBytes
      | some target => linkTo owner hash given existing target).Yields e s result s') :
    (linkElsewhere owner hash given existing).Yields e s result s' := by
  unfold linkElsewhere
  refine yields_bind (yields_candidates carries _ _) ?_
  exact yields_bind (yields_firstPresent carries tells) ends

/-- Resolving finds nothing where the owner's live row leads nowhere and there is nobody to link
to, or no link is asked for. -/
theorem yields_resolve_lost
    (lacks : ∀ row, s.find? (storageId owner hash) = some row →
      e.TellsOf s row ∧ e.bytesOf? s row = none)
    (nowhere : autoLink = true → (∀ r ∈ s.candidates hash.hex owner, e.Tells r.storageId) ∧
      e.source? s owner hash = none) :
    (resolve owner hash autoLink given).Yields e s (.error (.refused .noBytes)) s := by
  refine yields_resolve_onward carries lacks ?_
  split
  · next asked =>
      obtain ⟨tells, lost⟩ := nowhere asked
      refine yields_linkElsewhere carries tells ?_
      rw [lost]
      exact yields_refuse _
  · exact yields_refuse _

end Calls

/-! ### Granting -/

theorem yields_grantAccess {caller : Caller} {record : Record} {readFrom : Option String}
    {writable : Bool} {expiresAt : Time.Instant}
    (ends : e.now.later? e.issuer.seconds = some expiresAt) :
    (grantAccess caller record readFrom writable).Yields e s
      (.ok ((Award.mk record readFrom writable).granted e caller expiresAt)) s := by
  intro n
  have granted := award_run e caller ⟨record, readFrom, writable⟩ ⟨s, n⟩
  rw [ends] at granted
  exact ⟨n, granted⟩

section Service

variable {caller : Caller} {text : String} {hash : ContentHash} {m : Metadata} {row : Record}
  {size : Int} {autoLink : Bool} {real : String} {expiresAt : Time.Instant}

theorem yields_require (parsed : ContentHash.parse text = .ok hash) :
    (ofExcept (ContentHash.require text)).Yields e s (.ok hash) s :=
  yields_ofExcept (ContentHash.require_eq_ok_iff.mpr parsed)

theorem yields_requireOwner (owned : row.owner = caller.owner) :
    (requireOwner caller row).Yields e s (.ok ()) s := by
  rw [requireOwner, if_pos owned]
  exact yields_pure ()

/-- An answered registration was told a size that can be read, if any. -/
theorem size_of_register {n : Journal} {first : Registered}
    (parsed : ContentHash.parse text = .ok hash)
    (answered : (register caller text m autoLink e ⟨s, n⟩).1 = .ok first) :
    ∃ size, m.size = .ok size := by
  cases sized : m.size with
  | ok size => exact ⟨size, rfl⟩
  | error r =>
      have refused : (register caller text m autoLink).Yields e s (.error (.refused r)) s := by
        unfold register
        exact yields_bind (yields_require parsed) (yields_bind_error (yields_ofExcept_error sized))
      exact nomatch answered.symm.trans (refused.result n)

variable (carries : ∀ n c, e.Carries n c) (parsed : ContentHash.parse text = .ok hash)

include carries

/-! ### Registering -/

theorem yields_tryLink_nowhere
    (lacks : ∀ row, s.find? (storageId caller.owner hash) = some row →
      e.TellsOf s row ∧ e.bytesOf? s row = none)
    (nowhere : autoLink = true →
      (∀ r ∈ s.candidates hash.hex caller.owner, e.Tells r.storageId) ∧
        e.source? s caller.owner hash = none) :
    (tryLink caller hash m autoLink).Yields e s (.ok none) s := by
  unfold tryLink
  split
  · exact yields_bind (yields_attempt_refused
      (yields_resolve_lost carries lacks fun _ => nowhere ‹_›)) (yields_pure none)
  · exact yields_pure none

include parsed

/-- Registering confirms a row that leads to bytes. -/
theorem yields_register_known (sized : m.size = .ok size)
    (live : s.find? (storageId caller.owner hash) = some row) (owned : row.owner = caller.owner)
    (tells : e.TellsOf s row) (leads : e.bytesOf? s row = some real)
    (ends : e.now.later? e.issuer.seconds = some expiresAt) :
    (register caller text m autoLink).Yields e s
      (.ok ⟨(Award.mk row (some real) false).granted e caller expiresAt, false⟩) s := by
  unfold register
  refine yields_bind (yields_require parsed) (yields_bind (yields_ofExcept sized) ?_)
  refine yields_bind (yields_find carries _) ?_
  rw [live]
  refine yields_bind (yields_requireOwner owned) (yields_bind ?_ (yields_pure _))
  unfold registerKnown
  refine yields_bind (yields_knownBytes carries tells) ?_
  rw [leads]
  exact yields_grantAccess ends

/-- Registering repairs a row that leads nowhere, where there is nothing to link to. -/
theorem yields_register_repaired {given : Int} (sized : m.size = .ok given)
    (live : s.find? (storageId caller.owner hash) = some row) (owned : row.owner = caller.owner)
    (tells : e.TellsOf s row) (lost : e.bytesOf? s row = none)
    (nowhere : autoLink = true →
      (∀ r ∈ s.candidates hash.hex caller.owner, e.Tells r.storageId) ∧
        e.source? s caller.owner hash = none)
    (sizedFor : m.sizeFor row = .ok size) (admits : e.Admits s caller.owner [row.storageId] size)
    (ends : e.now.later? e.issuer.seconds = some expiresAt) :
    (register caller text m autoLink).Yields e s
      (.ok ⟨(Award.mk (s.written (row.revised m size) e.now) none true).granted e caller expiresAt,
        false⟩) (s.put (row.revised m size) e.now) := by
  have given : (if m.givesSize then given else row.size) = size :=
    Except.ok.inj ((Metadata.sizeFor_eq sized).symm.trans sizedFor)
  unfold register
  refine yields_bind (yields_require parsed) (yields_bind (yields_ofExcept sized) ?_)
  refine yields_bind (yields_find carries _) ?_
  rw [live]
  refine yields_bind (yields_requireOwner owned) (yields_bind ?_ (yields_pure _))
  unfold registerKnown
  refine yields_bind (yields_knownBytes carries tells) ?_
  rw [lost]
  refine yields_bind (yields_tryLink_nowhere carries (fun row' found => ?_) nowhere) ?_
  · cases Option.some.inj (found.symm.trans live)
    exact ⟨tells, lost⟩
  · dsimp only
    rw [given]
    refine yields_bind (yields_checkQuota carries admits) ?_
    exact yields_bind (yields_write carries _) (yields_grantAccess ends)

/-! ### Fetching -/

/-- Fetching finds a row that leads to bytes. -/
theorem yields_fetch_found (live : s.find? (storageId caller.owner hash) = some row)
    (owned : row.owner = caller.owner) (tells : e.TellsOf s row)
    (leads : e.bytesOf? s row = some real)
    (ends : e.now.later? e.issuer.seconds = some expiresAt) :
    (fetch caller text autoLink).Yields e s
      (.ok ((Award.mk row (some real) (!row.isLink)).granted e caller expiresAt)) s := by
  obtain ⟨r, found, rfl, award⟩ := Surroundings.existing?_of_bytesOf? leads
  unfold fetch
  refine yields_bind (yields_require parsed) ?_
  refine yields_bind (yields_attempt_ok (yields_resolve_found carries live tells found)) ?_
  refine yields_bind (yields_requireOwner owned) ?_
  rw [grantResolution_eq, award]
  exact yields_grantAccess ends

/-- Fetching, if it is not to link, finds a row that waits for its bytes. -/
theorem yields_fetch_waiting (live : s.find? (storageId caller.owner hash) = some row)
    (owned : row.owner = caller.owner) (own : row.isLink = false) (tells : e.TellsOf s row)
    (lost : e.bytesOf? s row = none) (ends : e.now.later? e.issuer.seconds = some expiresAt) :
    (fetch caller text false).Yields e s
      (.ok ((Award.mk row none true).granted e caller expiresAt)) s := by
  have unresolved : (resolve caller.owner hash false none).Yields e s
      (.error (.refused .noBytes)) s := by
    refine yields_resolve_lost carries (fun row' found => ?_) nofun
    cases Option.some.inj (found.symm.trans live)
    exact ⟨tells, lost⟩
  unfold fetch
  refine yields_bind (yields_require parsed) ?_
  refine yields_bind (yields_attempt_refused unresolved) ?_
  refine yields_bind (yields_find carries _) ?_
  rw [live]
  dsimp only
  rw [if_pos (by simp [own, owned])]
  exact yields_grantAccess ends

/-! ### Updating -/

/-- A move that is ready writes the row of the new content and turns the old one into garbage. -/
theorem yields_update_moved {newText : String} {newHash : ContentHash} {revision : Revision}
    (given : revision.newHash = some newText) (newParsed : ContentHash.parse newText = .ok newHash)
    (ready : MoveReady e s caller hash newHash revision.metadata row size)
    (tells : e.Tells (storageId caller.owner newHash))
    (ends : e.now.later? e.issuer.seconds = some expiresAt) :
    let newId := storageId caller.owner newHash
    let d := row.moved caller.owner newHash revision.metadata size
    (update caller text revision).Yields e s
      (.ok ((Award.mk (s.written d e.now) (if e.holds newId then some newId else none)
        true).granted e caller expiresAt)) ((s.put d e.now).markGarbage row.storageId e.now) := by
  intro newId d
  have moves : (some newHash).filter (· ≠ hash) = some newHash := by simp [ready.other]
  rw [update_eq]
  refine yields_bind (yields_require parsed) ?_
  rw [given]
  refine yields_bind (yields_bind (yields_require newParsed) (yields_pure (some newHash))) ?_
  unfold updateTo
  refine yields_bind (yields_find carries _) ?_
  rw [ready.live]
  refine yields_bind (yields_pure row) (yields_bind (yields_requireOwner ready.owned) ?_)
  refine yields_bind (yields_ofExcept ready.sized) ?_
  rw [moves]
  unfold moveContent
  refine yields_bind (yields_checkQuota carries ready.admits) ?_
  refine yields_bind (yields_write carries d) ?_
  refine yields_bind (yields_markGarbage carries row.storageId) ?_
  refine yields_bind (yields_bytesPresent carries tells) ?_
  split
  · exact yields_grantAccess ends
  · exact yields_grantAccess ends

/-! ### Deleting -/

/-- Deleting turns the caller's live row into garbage. -/
theorem yields_delete (live : s.find? (storageId caller.owner hash) = some row)
    (owned : row.owner = caller.owner) :
    (delete caller text).Yields e s (.ok { row with garbage := true })
      (s.markGarbage (storageId caller.owner hash) e.now) := by
  unfold delete
  refine yields_bind (yields_require parsed) (yields_bind (yields_find carries _) ?_)
  rw [live]
  refine yields_bind (yields_pure row) (yields_bind (yields_requireOwner owned) ?_)
  refine yields_bind (yields_markGarbage carries _) ?_
  rw [live, if_pos Option.isSome_some]
  exact yields_pure _

/-! ### Without a live row -/

variable (absent : s.find? (storageId caller.owner hash) = none)

include absent

theorem yields_fetch_absent :
    (fetch caller text false).Yields e s (.error (.refused .noAccess)) s := by
  have unresolved : (resolve caller.owner hash false none).Yields e s
      (.error (.refused .noBytes)) s := by
    refine yields_resolve_lost carries (fun row found => ?_) nofun
    exact nomatch found.symm.trans absent
  unfold fetch
  refine yields_bind (yields_require parsed) ?_
  refine yields_bind (yields_attempt_refused unresolved) ?_
  refine yields_bind (yields_find carries _) ?_
  rw [absent]
  exact yields_refuse _

theorem yields_update_absent {revision : Revision}
    (spelled : ∀ newText, revision.newHash = some newText →
      ∃ newHash, ContentHash.parse newText = .ok newHash) :
    (update caller text revision).Yields e s (.error (.refused .noAccess)) s := by
  have missing : ∀ newHash, (updateTo caller hash revision.metadata newHash).Yields e s
      (.error (.refused .noAccess)) s := by
    intro newHash
    unfold updateTo
    refine yields_bind (yields_find carries _) ?_
    rw [absent]
    exact yields_bind_error (yields_refuse _)
  rw [update_eq]
  refine yields_bind (yields_require parsed) ?_
  cases given : revision.newHash with
  | none => exact yields_bind (yields_pure none) (missing _)
  | some newText =>
      obtain ⟨newHash, newParsed⟩ := spelled newText given
      exact yields_bind (yields_bind (yields_require newParsed) (yields_pure (some newHash)))
        (missing _)

theorem yields_delete_absent :
    (delete caller text).Yields e s (.error (.refused .noAccess)) s := by
  unfold delete
  refine yields_bind (yields_require parsed) (yields_bind (yields_find carries _) ?_)
  rw [absent]
  exact yields_bind_error (yields_refuse _)

end Service
end Operation

/-! ### A small world -/

set_option maxRecDepth 10000 in
/-- The backend tells that neither of two owners has bytes for the hash of zeros. -/
theorem Surroundings.calm_tells (owner : String) (either : owner ∈ ["ann", "bob"]) :
    (calm .empty).Tells (storageId owner .zeros) ∧
      (calm .empty).holds (storageId owner .zeros) = false := by
  have told : ∀ owner ∈ ["ann", "bob"], (storagePath? (storageId owner .zeros)).map
      (calm .empty).backend.holds = some (.ok false) := by
    decide +kernel
  exact tells_of_told (told owner either)

/-- Nothing fails where there are no bytes at all. -/
theorem Surroundings.faultless_calm_pair :
    (Surroundings.calm .empty).Faultless {("ann", .zeros), ("bob", .zeros)} .zeros := by
  refine ⟨fun n c => ⟨rfl, fun _ => rfl⟩, fun owner mem => ?_⟩
  exact (calm_tells owner (by simpa using mem)).1

theorem Surroundings.faultless_calm :
    (Surroundings.calm .empty).Faultless {("ann", .zeros)} .zeros :=
  faultless_calm_pair.mono (Set.singleton_subset_iff.mpr (Set.mem_insert _ _))

end ContentStore
