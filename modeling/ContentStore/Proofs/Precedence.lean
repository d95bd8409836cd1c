import ContentStore.Proofs.Alike
import ContentStore.Proofs.Faultless
import ContentStore.Proofs.Overflow
import Mathlib.Data.Prod.Lex
import Mathlib.Data.String.Basic

/-!
# The order of precedence in which bytes are found

`Precedence` says what resolving comes to, in terms of the rows of the store and the bytes that are
present, without keys, calls or the order in which rows are kept:

1. the owner's own bytes;
2. the bytes that the owner's link stands for;
3. if a link is asked for, the bytes of the most senior record of another owner that has them: a
   link to it, if the owner's total then stays within the quota;
4. nothing.

Where nothing fails, resolving is this relation (`resolve_iff_precedence`). The store keeps the
owner's rows under keys and the candidates in a sorted list, so the work is in two translations: the
live row of a key is the live row of its owner and content, and the first candidate whose bytes are
present is the most senior one.
-/

namespace ContentStore

/-! ### The specification -/

/-- The order of precedence among records with bytes: by the time of creation, as it is kept, and
then by storage id. -/
def Record.seniority (r : Record) : String ×ₗ String :=
  toLex (r.createdAt.storedText, r.storageId)

/-- The owner's live row of some content. -/
structure Store.LiveRow (s : Store) (owner : String) (hash : ContentHash) (row : Record) :
    Prop where
  stands : row ∈ s.rows
  owned : row.owner = owner
  content : row.sha256 = hash.hex
  live : row.garbage = false

/-- A live row that owns bytes of some content, which are present. -/
structure Surroundings.Backs (e : Surroundings) (s : Store) (hash : ContentHash) (row : Record) :
    Prop where
  stands : row ∈ s.rows
  content : row.sha256 = hash.hex
  live : row.garbage = false
  own : row.isLink = false
  held : e.holds row.storageId = true

/-- The owner's live row leads to bytes: its own, or those of the row that it is a link to. -/
inductive Surroundings.Leads (e : Surroundings) (s : Store) (owner : String) (hash : ContentHash) :
    Prop where
  | own {row : Record} :
      s.LiveRow owner hash row → row.isLink = false → e.holds row.storageId = true →
      e.Leads s owner hash
  | link {row target : Record} :
      s.LiveRow owner hash row → row.isLink = true → e.Backs s hash target →
      target.storageId = row.linkedObject → e.Leads s owner hash

/-- The most senior record of another owner that has the bytes. -/
structure Surroundings.Offers (e : Surroundings) (s : Store) (owner : String) (hash : ContentHash)
    (target : Record) : Prop where
  backs : e.Backs s hash target
  foreign : target.owner ≠ owner
  senior : ∀ other, e.Backs s hash other → other.owner ≠ owner →
    target.seniority ≤ other.seniority

/-- The name asked for a new link: the one given, else the one of the owner's live row. -/
inductive Store.AsksName (s : Store) (owner : String) (hash : ContentHash) :
    Option String → String → Prop where
  | given {name : String} : s.AsksName owner hash (some name) name
  | kept {row : Record} : s.LiveRow owner hash row → s.AsksName owner hash none row.objectName

/-- The name of a new link: the one asked for, or else, also for an empty one, that of the
target. -/
inductive Store.Titles (s : Store) (owner : String) (hash : ContentHash) (given : Option String)
    (target : Record) : String → Prop where
  | asked {name : String} :
      s.AsksName owner hash given name → name ≠ "" → s.Titles owner hash given target name
  | copied :
      (∀ name, s.AsksName owner hash given name → name = "") →
      s.Titles owner hash given target target.objectName

/-- What resolving comes to, and the store that it leaves behind. -/
inductive Precedence (e : Surroundings) (s : Store) (owner : String) (hash : ContentHash)
    (autoLink : Bool) (given : Option String) : Except Failure Resolution → Store → Prop where
  | backed {row : Record} :
      s.LiveRow owner hash row → row.isLink = false → e.holds row.storageId = true →
      Precedence e s owner hash autoLink given (.ok (.backed row)) s
  | link {row target : Record} :
      s.LiveRow owner hash row → row.isLink = true → e.Backs s hash target →
      target.storageId = row.linkedObject →
      Precedence e s owner hash autoLink given (.ok (.link row target)) s
  | linked {target : Record} {name : String} :
      ¬e.Leads s owner hash → autoLink = true → e.Offers s owner hash target →
      s.total owner [storageId owner hash] + target.size ≤ e.quotaOf s owner →
      s.Titles owner hash given target name →
      Precedence e s owner hash autoLink given
        (.ok (.linked (s.written (linkDraft owner hash name target) e.now) target))
        (s.put (linkDraft owner hash name target) e.now)
  | overQuota {target : Record} :
      ¬e.Leads s owner hash → autoLink = true → e.Offers s owner hash target →
      e.quotaOf s owner < s.total owner [storageId owner hash] + target.size →
      s.total owner [storageId owner hash] ≤ Text.maxInt64 →
      Precedence e s owner hash autoLink given
        (.error (.refused (.overQuota
          (min Text.maxInt64 (s.total owner [storageId owner hash] + target.size))
          (e.quotaOf s owner)))) s
  | overflow {target : Record} :
      ¬e.Leads s owner hash → autoLink = true → e.Offers s owner hash target →
      Text.maxInt64 < s.total owner [storageId owner hash] →
      Precedence e s owner hash autoLink given (.error (.refused sumOverflow)) s
  | noBytes :
      ¬e.Leads s owner hash → (autoLink = true → ∀ target, ¬e.Offers s owner hash target) →
      Precedence e s owner hash autoLink given (.error (.refused .noBytes)) s

/-- The owner's row of some content is now a link to the target, and the store is otherwise as it
was. -/
structure Store.Relinked (s s' : Store) (owner : String) (hash : ContentHash)
    (given : Option String) (link target : Record) : Prop where
  others : s.DifferAt s' (storageId owner hash)
  plans : s'.plans = s.plans
  row : s'.LiveRow owner hash link
  aims : link.linkedObject = target.storageId
  size : link.size = target.size
  mimeType : link.mimeType = target.mimeType
  titled : s.Titles owner hash given target link.objectName

section Translation

variable {used : Set (String × ContentHash)} {e : Surroundings} {s : Store} {owner : String}
  {hash : ContentHash} {row target : Record} {given : Option String} {name : String}

/-! ### Keys -/

namespace Store.WellFormed

variable (wellFormed : s.WellFormed used)

include wellFormed

/-- The live row of a key is the live row of its owner and content. -/
theorem find?_eq_some_iff_liveRow (free : CollisionFree used) (mem : (owner, hash) ∈ used) :
    s.find? (storageId owner hash) = some row ↔ s.LiveRow owner hash row := by
  constructor
  · intro found
    obtain ⟨stands, hasKey, live⟩ := find?_some found
    obtain ⟨owned, content⟩ := wellFormed.of_key free mem stands hasKey
    exact ⟨stands, owned, content, live⟩
  · rintro ⟨stands, owned, content, live⟩
    refine wellFormed.distinct.find?_eq_some_iff.mpr ⟨stands, ?_, live⟩
    rw [(wellFormed.key_of_content stands content).2, owned]

/-- A link leads to bytes that are present under the row that it names. -/
theorem target?_held_iff (content : row.sha256 = hash.hex) :
    s.target? row = some target ∧ e.holds target.storageId = true ↔
      e.Backs s hash target ∧ target.storageId = row.linkedObject := by
  rw [target?_eq_some_iff, wellFormed.distinct.find?_eq_some_iff, content]
  constructor
  · rintro ⟨⟨⟨stands, named, live⟩, own, same⟩, held⟩
    exact ⟨⟨stands, same, live, own, held⟩, named⟩
  · rintro ⟨⟨stands, same, live, own, held⟩, named⟩
    exact ⟨⟨⟨stands, named, live⟩, own, same⟩, held⟩

/-- Where the owner's live row leads to no bytes by the specification, it leads to none. -/
theorem bytesOf?_of_not_leads (free : CollisionFree used) (mem : (owner, hash) ∈ used)
    (found : s.find? (storageId owner hash) = some row) (lost : ¬e.Leads s owner hash) :
    e.bytesOf? s row = none := by
  have liveRow := (wellFormed.find?_eq_some_iff_liveRow free mem).mp found
  cases isLink : row.isLink with
  | false =>
      rw [e.bytesOf?_own isLink]
      exact if_neg fun held => lost (.own liveRow isLink held)
  | true =>
      cases aims : s.target? row with
      | none => exact e.bytesOf?_lost isLink aims
      | some target =>
          rw [e.bytesOf?_link isLink aims]
          refine if_neg fun held => ?_
          obtain ⟨backs, named⟩ := (wellFormed.target?_held_iff liveRow.content).mp ⟨aims, held⟩
          exact lost (.link liveRow isLink backs named)

end Store.WellFormed

/-! ### Seniority -/

theorem Store.candidateOrder_iff {a b : Record} :
    candidateOrder a b = true ↔ a.seniority ≤ b.seniority := by
  simp [candidateOrder, Record.seniority, Prod.Lex.toLex_le_toLex]

/-- In a list in order, what is found first comes before all that could be found. -/
theorem find?_eq_some_iff_least {α β : Type} [LinearOrder β] {l : List α} {p : α → Bool} {f : α → β}
    (sorted : l.Pairwise fun a b => f a ≤ f b) (apart : ∀ a ∈ l, ∀ b ∈ l, f a = f b → a = b)
    {a : α} : l.find? p = some a ↔ a ∈ l ∧ p a = true ∧ ∀ b ∈ l, p b = true → f a ≤ f b := by
  have least : ∀ {a}, l.find? p = some a → ∀ b ∈ l, p b = true → f a ≤ f b := by
    intro a found b mem held
    obtain ⟨-, before, after, rfl, skipped⟩ := List.find?_eq_some_iff_append.mp found
    rcases List.mem_append.mp mem with early | late
    · exact absurd held (by simpa using skipped b early)
    · rcases List.mem_cons.mp late with rfl | later
      · exact le_refl _
      · exact (List.pairwise_cons.mp (List.pairwise_append.mp sorted).2.1).1 b later
  constructor
  · intro found
    exact ⟨List.mem_of_find?_eq_some found, List.find?_some found, least found⟩
  · rintro ⟨mem, held, below⟩
    cases found : l.find? p with
    | none => exact absurd held (List.find?_eq_none.mp found a mem)
    | some first =>
        have memFirst := List.mem_of_find?_eq_some found
        have same := le_antisymm (least found a mem held)
          (below first memFirst (List.find?_some found))
        rw [apart first memFirst a mem same]

theorem Store.candidates_sorted (s : Store) (sha256 notOwner : String) :
    (s.candidates sha256 notOwner).Pairwise fun a b => a.seniority ≤ b.seniority := by
  simp only [← candidateOrder_iff]
  refine List.pairwise_mergeSort (fun a b c first later => ?_) (fun a b => ?_) _
  · rw [candidateOrder_iff] at first later ⊢
    exact first.trans later
  · rw [Bool.or_eq_true, candidateOrder_iff, candidateOrder_iff]
    exact le_total _ _

/-- The record that a new link is made to is the most senior one that has the bytes. -/
theorem Store.WellFormed.source?_eq_some_iff (wellFormed : s.WellFormed used) :
    e.source? s owner hash = some target ↔ e.Offers s owner hash target := by
  have apart : ∀ a ∈ s.candidates hash.hex owner, ∀ b ∈ s.candidates hash.hex owner,
      a.seniority = b.seniority → a = b := by
    intro a memA b memB same
    have sameKey : a.storageId = b.storageId := congrArg (fun x => (ofLex x).2) same
    exact wellFormed.distinct.eq_of_key (mem_candidates_iff.mp memA).1
      (mem_candidates_iff.mp memB).1 sameKey
  have candidate : ∀ r, (r ∈ s.candidates hash.hex owner ∧ e.holds r.storageId = true) ↔
      e.Backs s hash r ∧ r.owner ≠ owner := by
    intro r
    rw [mem_candidates_iff]
    constructor
    · rintro ⟨⟨stands, content, foreign, live, own⟩, held⟩
      exact ⟨⟨stands, content, live, own, held⟩, foreign⟩
    · rintro ⟨⟨stands, content, live, own, held⟩, foreign⟩
      exact ⟨⟨stands, content, foreign, live, own⟩, held⟩
  rw [Surroundings.source?, find?_eq_some_iff_least (s.candidates_sorted _ _) apart]
  constructor
  · rintro ⟨mem, held, least⟩
    obtain ⟨backs, foreign⟩ := (candidate target).mp ⟨mem, held⟩
    refine ⟨backs, foreign, fun other backs' foreign' => ?_⟩
    obtain ⟨mem', held'⟩ := (candidate other).mpr ⟨backs', foreign'⟩
    exact least other mem' held'
  · rintro ⟨backs, foreign, senior⟩
    obtain ⟨mem, held⟩ := (candidate target).mpr ⟨backs, foreign⟩
    refine ⟨mem, held, fun other mem' held' => ?_⟩
    obtain ⟨backs', foreign'⟩ := (candidate other).mp ⟨mem', held'⟩
    exact senior other backs' foreign'

/-! ### Names -/

namespace Store.WellFormed

variable (wellFormed : s.WellFormed used) (free : CollisionFree used) (mem : (owner, hash) ∈ used)

include wellFormed free mem

theorem asksName_iff :
    s.AsksName owner hash given name ↔
      given.or ((s.find? (storageId owner hash)).map (·.objectName)) = some name := by
  constructor
  · rintro (_ | ⟨liveRow⟩)
    · rfl
    · rw [(wellFormed.find?_eq_some_iff_liveRow free mem).mpr liveRow]
      rfl
  · intro asked
    cases given with
    | some name' =>
        cases asked
        exact .given
    | none =>
        obtain ⟨row, found, rfl⟩ := Option.map_eq_some_iff.mp asked
        exact .kept ((wellFormed.find?_eq_some_iff_liveRow free mem).mp found)

theorem titles_iff :
    s.Titles owner hash given target name ↔
      name = linkName given (s.find? (storageId owner hash)) target := by
  have asks : ∀ name, s.AsksName owner hash given name ↔
      given.or ((s.find? (storageId owner hash)).map (·.objectName)) = some name :=
    fun name => wellFormed.asksName_iff free mem
  unfold linkName
  cases asked : given.or ((s.find? (storageId owner hash)).map (·.objectName)) with
  | none =>
      have never : ∀ name, ¬s.AsksName owner hash given name := fun name asksName =>
        nomatch asked.symm.trans ((asks name).mp asksName)
      constructor
      · rintro (⟨asksName, -⟩ | -)
        · exact absurd asksName (never name)
        · rfl
      · rintro rfl
        exact .copied fun name asksName => absurd asksName (never name)
  | some chosen =>
      have only : ∀ name, s.AsksName owner hash given name → name = chosen := fun name asksName =>
        Option.some.inj (((asks name).mp asksName).symm.trans asked)
      dsimp only
      split
      · next empty =>
          constructor
          · rintro (⟨asksName, some⟩ | -)
            · exact absurd ((only name asksName).trans empty) some
            · rfl
          · rintro rfl
            exact .copied fun name asksName => (only name asksName).trans empty
      · next some =>
          constructor
          · rintro (⟨asksName, -⟩ | none)
            · exact only name asksName
            · exact absurd (none chosen ((asks chosen).mpr asked)) some
          · rintro rfl
            exact .asked ((asks name).mpr asked) some

end Store.WellFormed

/-! ### The check of the quota -/

/-- Under a quota below the largest number the check is one of the exact total. -/
theorem Store.WellFormed.admits_iff (wellFormed : s.WellFormed used)
    (small : e.quotaOf s owner < Text.maxInt64) {excluding : List String} {size : Int}
    (nonneg : 0 ≤ size) :
    e.Admits s owner excluding size ↔ s.total owner excluding + size ≤ e.quotaOf s owner := by
  constructor
  · exact fun admits => total_add_le_of_admits admits small
  · intro within
    have fits : s.total owner excluding ≤ Text.maxInt64 := by omega
    refine ⟨_, wellFormed.usage?_eq_some_iff.mpr ⟨rfl, fits⟩, ?_⟩
    rw [wellFormed.saturatingAdd_total nonneg]
    exact (min_le_right _ _).trans within

/-! ### Writing a row -/

namespace Store.WellFormed

variable (wellFormed : s.WellFormed used) (free : CollisionFree used) (mem : (owner, hash) ∈ used)

include wellFormed free mem

/-- What is written for an owner and some content is the owner's live row of it. -/
theorem liveRow_put {d : Draft} {now : Time.Instant} (drafted : d.IsFor owner hash) :
    (s.put d now).LiveRow owner hash (s.written d now) := by
  have after : (s.put d now).WellFormed used := wellFormed.put mem drafted
  exact (after.find?_eq_some_iff_liveRow free mem).mp (find?_put_self drafted.key)

theorem relinked_put {now : Time.Instant} (offers : e.Offers s owner hash target)
    (titles : s.Titles owner hash given target name) :
    let d := linkDraft owner hash name target
    s.Relinked (s.put d now) owner hash given (s.written d now) target := by
  intro d
  have drafted : d.IsFor owner hash :=
    ⟨rfl, rfl, rfl, wellFormed.sized target offers.backs.stands⟩
  refine ⟨differAt_put, rfl, wellFormed.liveRow_put free mem drafted, linkedObject_written,
    size_written, mimeType_written, ?_⟩
  rw [objectName_written]
  exact titles

end Store.WellFormed

end Translation

/-! ### Resolving -/

namespace Operation

variable {used : Set (String × ContentHash)} {e : Surroundings} {s s' : Store} {owner : String}
  {hash : ContentHash} {target : Record} {given : Option String} {autoLink : Bool}
  {result : Except Failure Resolution}

theorem yields_linkTo_rejected {existing : Option Record} {failure : Failure}
    (rejected : (checkQuota owner [storageId owner hash] target.size).Yields e s
      (.error failure) s) :
    (linkTo owner hash given existing target).Yields e s (.error failure) s := by
  unfold linkTo
  exact yields_bind_error rejected

theorem yields_linkTo (carries : ∀ n c, e.Carries n c) {existing : Option Record}
    (admits : e.Admits s owner [storageId owner hash] target.size) :
    let d := linkDraft owner hash (linkName given existing target) target
    (linkTo owner hash given existing target).Yields e s
      (.ok (.linked (s.written d e.now) target)) (s.put d e.now) := by
  intro d
  unfold linkTo
  refine yields_bind (yields_checkQuota carries admits) ?_
  exact yields_bind (yields_write carries _) (yields_pure _)

variable (wellFormed : s.WellFormed used) (free : CollisionFree used) (mem : (owner, hash) ∈ used)
  (faultless : e.Faultless used hash)

include wellFormed free mem faultless

/-- Where the owner's live row leads nowhere, resolving ends with the most senior record of another
owner that has the bytes. -/
theorem yields_resolve_offered (lost : ¬e.Leads s owner hash) (asked : autoLink = true)
    (offers : e.Offers s owner hash target)
    (ends : (linkTo owner hash given (s.find? (storageId owner hash)) target).Yields e s result
      s') :
    (resolve owner hash autoLink given).Yields e s result s' := by
  refine yields_resolve_onward faultless.carries (fun row live => ?_) ?_
  · have liveRow := (wellFormed.find?_eq_some_iff_liveRow free mem).mp live
    exact ⟨faultless.tellsOf wellFormed liveRow.stands liveRow.content,
      wellFormed.bytesOf?_of_not_leads free mem live lost⟩
  · rw [if_pos asked]
    refine yields_linkElsewhere faultless.carries
      (fun r candidate => faultless.tells_candidate wellFormed candidate) ?_
    rw [wellFormed.source?_eq_some_iff.mpr offers]
    exact ends

/-- Whatever the specification says, resolving comes to. -/
theorem yields_resolve_of_precedence (small : e.quotaOf s owner < Text.maxInt64)
    (precedes : Precedence e s owner hash autoLink given result s') :
    (resolve owner hash autoLink given).Yields e s result s' := by
  have carries := faultless.carries
  cases precedes with
  | @backed row liveRow own held =>
      have live := (wellFormed.find?_eq_some_iff_liveRow free mem).mpr liveRow
      have tells := faultless.tellsOf wellFormed liveRow.stands liveRow.content
      refine yields_resolve_found carries live tells ?_
      rw [e.existing?_own own, if_pos held]
  | @link row target liveRow isLink backs named =>
      have live := (wellFormed.find?_eq_some_iff_liveRow free mem).mpr liveRow
      have tells := faultless.tellsOf wellFormed liveRow.stands liveRow.content
      obtain ⟨aims, held⟩ := (wellFormed.target?_held_iff liveRow.content).mpr ⟨backs, named⟩
      refine yields_resolve_found carries live tells ?_
      rw [e.existing?_link isLink aims, if_pos held]
  | @linked target name lost asked offers within titles =>
      have sized := wellFormed.sized target offers.backs.stands
      rw [(wellFormed.titles_iff free mem).mp titles]
      exact yields_resolve_offered wellFormed free mem faultless lost asked offers
        (yields_linkTo carries ((wellFormed.admits_iff small sized).mpr within))
  | @overQuota target lost asked offers exceeds fits =>
      have sized := wellFormed.sized target offers.backs.stands
      have counted := wellFormed.usage?_eq_some_iff.mpr ⟨rfl, fits⟩
      refine yields_resolve_offered wellFormed free mem faultless lost asked offers
        (yields_linkTo_rejected ?_)
      rw [← wellFormed.saturatingAdd_total sized]
      refine yields_checkQuota_exceeded carries counted ?_
      rw [wellFormed.saturatingAdd_total sized]
      exact lt_min small exceeds
  | @overflow target lost asked offers large =>
      refine yields_resolve_offered wellFormed free mem faultless lost asked offers
        (yields_linkTo_rejected (yields_checkQuota_uncounted carries ?_))
      rw [wellFormed.usage?_eq, if_neg (not_le.mpr large)]
  | noBytes lost nobody =>
      refine yields_resolve_lost carries (fun row live => ?_) fun asked => ⟨?_, ?_⟩
      · have liveRow := (wellFormed.find?_eq_some_iff_liveRow free mem).mp live
        exact ⟨faultless.tellsOf wellFormed liveRow.stands liveRow.content,
          wellFormed.bytesOf?_of_not_leads free mem live lost⟩
      · exact fun r candidate => faultless.tells_candidate wellFormed candidate
      · cases source : e.source? s owner hash with
        | none => rfl
        | some target =>
            exact absurd (wellFormed.source?_eq_some_iff.mp source) (nobody asked target)

end Operation

namespace Precedence

variable {used : Set (String × ContentHash)} {e : Surroundings} {s s' : Store} {owner : String}
  {hash : ContentHash} {given : Option String} {autoLink : Bool}
  {result : Except Failure Resolution}

/-- The specification leaves no case out. -/
theorem exists_result (wellFormed : s.WellFormed used) (free : CollisionFree used)
    (mem : (owner, hash) ∈ used) :
    ∃ result s', Precedence e s owner hash autoLink given result s' := by
  by_cases leads : e.Leads s owner hash
  · cases leads with
    | own liveRow own held => exact ⟨_, _, .backed liveRow own held⟩
    | link liveRow isLink backs named => exact ⟨_, _, .link liveRow isLink backs named⟩
  · by_cases offered : autoLink = true ∧ ∃ target, e.Offers s owner hash target
    · obtain ⟨asked, target, offers⟩ := offered
      rcases le_or_gt (s.total owner [storageId owner hash] + target.size) (e.quotaOf s owner) with
        within | exceeds
      · exact ⟨_, _, .linked leads asked offers within ((wellFormed.titles_iff free mem).mpr rfl)⟩
      · rcases le_or_gt (s.total owner [storageId owner hash]) Text.maxInt64 with fits | large
        · exact ⟨_, _, .overQuota leads asked offers exceeds fits⟩
        · exact ⟨_, _, .overflow leads asked offers large⟩
    · exact ⟨_, _, .noBytes leads fun asked target offers => offered ⟨asked, target, offers⟩⟩

/-- Nothing is written but a new link. -/
theorem relinked (precedes : Precedence e s owner hash autoLink given result s')
    (wellFormed : s.WellFormed used) (free : CollisionFree used) (mem : (owner, hash) ∈ used) :
    s' = s ∨ ∃ link target, result = .ok (.linked link target) ∧
      s.Relinked s' owner hash given link target := by
  cases precedes with
  | @linked target name lost asked offers within titles =>
      exact .inr ⟨_, target, rfl, wellFormed.relinked_put free mem offers titles⟩
  | _ => exact .inl rfl

/-- While quotas stay below the largest number, totals can be counted. -/
theorem ne_overflow {bound : Int} (reachable : ReachableWithin bound used s)
    (below : bound < Text.maxInt64) (free : CollisionFree used) :
    ¬Precedence e s owner hash autoLink given (.error (.refused sumOverflow)) s' := by
  intro precedes
  have wellFormed : s.WellFormed used := ReachableUnder.wellFormed reachable free
  cases precedes with
  | overflow _ _ _ large =>
      have bounded := reachable.total_le free below owner
      have less : s.total owner [storageId owner hash] ≤ s.total owner [] :=
        wellFormed.total_le [storageId owner hash]
      have positive : 0 < Text.maxInt64 := by decide
      omega

end Precedence

/-! ### A small world -/

theorem Store.not_liveRow_annAlone {row : Record} : ¬annAlone.LiveRow "bob" .zeros row := by
  rintro ⟨stands, owned, -⟩
  rw [rows_annAlone, List.mem_singleton] at stands
  rw [stands] at owned
  exact absurd owned (by decide)

theorem Surroundings.not_leads_annAlone {e : Surroundings} :
    ¬e.Leads .annAlone "bob" .zeros := by
  rintro (⟨liveRow, -⟩ | ⟨liveRow, -⟩) <;> exact Store.not_liveRow_annAlone liveRow

set_option maxRecDepth 10000 in
/-- The backend tells that the bytes of one owner are present and those of the other are not. -/
theorem Surroundings.stocked_tells (owner : String) (either : owner ∈ ["ann", "bob"]) :
    stocked.Tells (storageId owner .zeros) ∧
      stocked.holds (storageId owner .zeros) = decide (owner = "ann") := by
  have told : ∀ owner ∈ ["ann", "bob"], (storagePath? (storageId owner .zeros)).map
      stocked.backend.holds = some (.ok (decide (owner = "ann"))) := by
    decide +kernel
  exact tells_of_told (told owner either)

theorem Surroundings.faultless_stocked :
    Surroundings.stocked.Faultless {("ann", .zeros), ("bob", .zeros)} .zeros := by
  refine ⟨fun n c => ⟨rfl, fun _ => rfl⟩, fun owner mem => ?_⟩
  exact (stocked_tells owner (by simpa using mem)).1

/-- Bob has nothing of his own, and a link to Ann's record costs him nothing. -/
theorem Precedence.annAlone_linked :
    let d := linkDraft "bob" .zeros "" .annsZeros
    Precedence .stocked .annAlone "bob" .zeros true none
      (.ok (.linked (Store.annAlone.written d ⟨0, 0⟩) .annsZeros))
      (Store.annAlone.put d ⟨0, 0⟩) := by
  intro d
  have only : ∀ r ∈ Store.annAlone.rows, r = .annsZeros := fun r stands => by
    simpa [Store.rows_annAlone] using stands
  have offers : Surroundings.stocked.Offers .annAlone "bob" .zeros .annsZeros := by
    refine ⟨⟨List.mem_singleton.mpr rfl, rfl, rfl, rfl, ?_⟩, by decide, fun other backs _ => ?_⟩
    · exact (Surroundings.stocked_tells "ann" (by decide)).2
    · rw [only other backs.stands]
  have nothing : Store.annAlone.total "bob" [storageId "bob" .zeros] = 0 := by
    refine List.sum_eq_zero fun n mem => ?_
    obtain ⟨r, counts, rfl⟩ := List.mem_map.mp mem
    rw [only r (List.mem_filter.mp counts).1]
    rfl
  refine .linked Surroundings.not_leads_annAlone rfl offers ?_ (.copied fun name asks => ?_)
  · rw [nothing]
    decide
  · cases asks with
    | kept liveRow => exact absurd liveRow Store.not_liveRow_annAlone

/-- **Resolving is its order of precedence.** In a reachable store, with nothing going wrong and a
quota below the largest number, resolving comes to exactly what `Precedence` says and leaves exactly
that store behind. The store changes only where a link is made, and then only in the owner's row,
which becomes a link with the size and the type of its target and the name that `Store.Titles` says.
That an exact total cannot be counted in 64 bits does not happen if quotas were below the largest
number all along, and if the rows could be asked all through each action or not at all
(`Surroundings.Steady`): an action that is stopped between its writes can leave a total that is too
large. -/
theorem resolve_iff_precedence {used : Set (String × ContentHash)} {e : Surroundings} {s : Store}
    {owner : String} {hash : ContentHash} (free : CollisionFree used)
    (reachable : Reachable used s) (mem : (owner, hash) ∈ used)
    (faultless : e.Faultless used hash) (small : e.quotaOf s owner < Text.maxInt64)
    (autoLink : Bool) (given : Option String) :
    (∀ n result s', (∃ k, Operation.resolve owner hash autoLink given e ⟨s, n⟩ =
        (result, ⟨s', k⟩)) ↔ Precedence e s owner hash autoLink given result s') ∧
    (∀ result s', Precedence e s owner hash autoLink given result s' →
      s' = s ∨ ∃ link target, result = .ok (.linked link target) ∧
        s.Relinked s' owner hash given link target) ∧
    ∀ bound, bound < Text.maxInt64 → ReachableWithin bound used s →
      ∀ s', ¬Precedence e s owner hash autoLink given (.error (.refused sumOverflow)) s' := by
  have wellFormed := reachable.wellFormed free
  refine ⟨fun n result s' => ⟨?_, fun precedes => ?_⟩, ?_, ?_⟩
  · rintro ⟨k, ran⟩
    obtain ⟨result', t, precedes⟩ : ∃ result' t,
        Precedence e s owner hash autoLink given result' t :=
      Precedence.exists_result wellFormed free mem
    obtain ⟨k', ran'⟩ := Operation.yields_resolve_of_precedence wellFormed free mem faultless small
      precedes n
    obtain ⟨rfl, left⟩ := Prod.mk.inj (ran.symm.trans ran')
    cases left
    exact precedes
  · exact Operation.yields_resolve_of_precedence wellFormed free mem faultless small precedes n
  · exact fun _ _ precedes => precedes.relinked wellFormed free mem
  · exact fun bound below within _ => Precedence.ne_overflow within below free

theorem resolve_iff_precedence_linking :
    ∃ k, Operation.resolve "bob" .zeros true none .stocked ⟨.annAlone, 0⟩ =
      (.ok (.linked (Store.annAlone.written (linkDraft "bob" .zeros "" .annsZeros) ⟨0, 0⟩)
          .annsZeros),
        ⟨Store.annAlone.put (linkDraft "bob" .zeros "" .annsZeros) ⟨0, 0⟩, k⟩) :=
  ((resolve_iff_precedence collisionFree_zeros (Store.reachable_annAlone (Set.mem_insert _ _))
    (Set.mem_insert_of_mem _ rfl) Surroundings.faultless_stocked (by decide) true none).1
    0 _ _).mpr Precedence.annAlone_linked

end ContentStore
