import ContentStore.Operation
import ContentStore.Proofs.StoragePaths
import ContentStore.Proofs.Targets
import Mathlib.Data.Finset.Insert

/-!
# Keepers with the same bytes

A file tree follows the path of a storage id name by name, and a gateway puts it behind a base URL.
Where both have the bytes of the same storage ids, they give the same answer to each probe, and
neither fails (`keepers_agree`).

In the tree this rests on the plain files lying equally deep: none of them stands where the way to
another needs a folder. At the gateway it rests on the path of an id being read as it is written.
In both, the path tells the id.
-/

namespace ContentStore

/-! ### The path of a storage id -/

/-- Two folders and the id. -/
def shards (id : String) : List (List Char) :=
  [id.toList.take 2, (id.toList.drop 2).take 2, id.toList]

section Shards

variable {id : String} {shard : List Char}

theorem joined_shards (id : String) :
    String.ofList (Url.joined (shards id)) = "/" ++ shardedPath id := by
  rw [← String.toList_inj, String.toList_append, shardedPath]
  simp [Url.joined, shards]

theorem infix_of_mem_shards (mem : shard ∈ shards id) : shard <:+: id.toList := by
  simp only [shards, List.mem_cons, List.not_mem_nil, or_false] at mem
  rcases mem with rfl | rfl | rfl
  · exact (List.take_prefix 2 _).isInfix
  · exact (List.take_prefix 2 _).isInfix.trans (List.drop_suffix 2 _).isInfix
  · exact List.infix_rfl

/-- A shard is made of some of the digits. -/
theorem isLowerHex_of_mem_shards (isId : IsStorageId id) (mem : shard ∈ shards id) :
    ∀ c ∈ shard, Text.IsLowerHex c := fun c mem' =>
  isId.2 c ((infix_of_mem_shards mem).subset mem')

theorem digit_of_mem_shardedPath {c : Char} (isId : IsStorageId id)
    (mem : c ∈ (shardedPath id).toList) : c = '/' ∨ Text.IsLowerHex c := by
  have joins := congrArg String.toList (joined_shards id)
  rw [String.toList_ofList, String.toList_append] at joins
  rcases Url.mem_joined (joins ▸ List.mem_append_right _ mem) with slash | ⟨shard, among, mem⟩
  · exact .inl slash
  · exact .inr (isLowerHex_of_mem_shards isId among c mem)

theorem ne_nil_of_mem_shards (isId : IsStorageId id) (mem : shard ∈ shards id) : shard ≠ [] := by
  have length : id.toList.length = 64 := isId.1
  simp only [shards, List.mem_cons, List.not_mem_nil, or_false] at mem
  refine List.ne_nil_of_length_pos ?_
  rcases mem with rfl | rfl | rfl <;> simp [length]

/-- The digits are read as they are written. -/
theorem Url.isPlainSegment_of_isLowerHex (digits : ∀ c ∈ shard, Text.IsLowerHex c) :
    IsPlainSegment shard := by
  have all : ∀ n : Fin 128, Text.IsLowerHex (Char.ofNat n) →
      encodedInPath (Char.ofNat n) = false ∧ (Char.ofNat n).toLower ≠ '.' ∧
        (Char.ofNat n).toLower ≠ '%' := by
    decide
  have digit {c : Char} (mem : c ∈ shard) :
      encodedInPath c = false ∧ c.toLower ≠ '.' ∧ c.toLower ≠ '%' := by
    have one := all ⟨c.toNat, Text.toNat_of_isLowerHex (digits c mem)⟩
    rw [Char.ofNat_toNat] at one
    exact one (digits c mem)
  refine ⟨fun c mem => ⟨(digit mem).1, ?_, ?_⟩, ?_, ?_⟩
  · rintro rfl
    exact absurd (digits _ mem) (by decide)
  · rintro rfl
    exact absurd (digits _ mem) (by decide)
  · cases shard with
    | nil => rfl
    | cons c rest => simp [isPoint, digit List.mem_cons_self]
  · cases shard with
    | nil => rfl
    | cons c rest => simp [isDoublePoint, digit List.mem_cons_self]

end Shards

/-! ### The file tree -/

namespace FileTree

variable {t : FileTree} {here way : List String}

/-- A name that leads one step down. -/
structure IsOrdinary (name : String) : Prop where
  nonempty : name ≠ ""
  noPoint : name ≠ "."
  short : name.utf8ByteSize ≤ maxNameBytes

/-- The plain files below the root are those of the storage ids, and the paths of storage ids are
not too long for the system there. -/
structure HoldsExactly (t : FileTree) (root : String) (ids : Finset String) : Prop where
  files : ∀ names, names ∈ t.files ↔
    ∃ id ∈ ids, ∃ path, storagePath? id = some path ∧ steps path = names
  nameable : ∀ id path, IsStorageId id → storagePath? id = some path →
    root.utf8ByteSize + 1 + path.utf8ByteSize ≤ maxPathBytes

theorem kind?_eq_file_iff : t.kind? way = some .file ↔ way ∈ t.files := by
  unfold kind?
  by_cases mem : way ∈ t.files
  · simp [mem]
  · simp only [List.contains_iff_mem, mem, if_false, iff_false]
    split <;> simp

/-- Something lies at every path that leads to a plain file. -/
theorem kind?_of_prefix {above : List String} (leads : above <+: way) (mem : way ∈ t.files) :
    t.kind? above ≠ none := by
  have folder : t.files.any above.isPrefixOf = true :=
    List.any_eq_true.mpr ⟨way, mem, List.isPrefixOf_iff_prefix.mpr leads⟩
  unfold kind?
  rw [folder, Bool.or_true, Bool.true_or]
  split <;> simp

/-- Where every plain file lies as deep as the names lead, following them meets no fault, and ends
at a plain file exactly if there is one. -/
theorem follow_of_level (ordinary : ∀ name ∈ way, IsOrdinary name)
    (level : ∀ file ∈ t.files, file.length = here.length + way.length) (start : here ∉ t.files) :
    ∃ kind, t.follow here way = .ok kind ∧ (kind = some .file ↔ here ++ way ∈ t.files) := by
  induction way generalizing here with
  | nil => exact ⟨some .folder, rfl, by simpa using start⟩
  | cons name rest ih =>
      obtain ⟨first, later⟩ := List.forall_mem_cons.mp ordinary
      have stays : ¬(name = "" ∨ name = ".") := not_or.mpr ⟨first.nonempty, first.noPoint⟩
      have leads : here ++ [name] <+: here ++ name :: rest := ⟨rest, by simp⟩
      rw [follow, if_neg stays, if_neg (Nat.not_lt.mpr first.short)]
      cases met : t.kind? (here ++ [name]) with
      | none =>
          refine ⟨none, rfl, iff_of_false (fun same => by cases same) fun mem => ?_⟩
          exact kind?_of_prefix leads mem met
      | some kind =>
          cases kind with
          | file =>
              have mem := kind?_eq_file_iff.mp met
              -- A plain file this far up is as deep as the names lead.
              have last : rest = [] := by
                have depth := level _ mem
                simp only [List.length_append, List.length_cons, List.length_nil] at depth
                exact List.eq_nil_of_length_eq_zero (by omega)
              subst last
              exact ⟨some .file, rfl, iff_of_true rfl mem⟩
          | folder =>
              have start' : here ++ [name] ∉ t.files := fun mem => by
                rw [kind?_eq_file_iff.mpr mem] at met
                cases met
              have level' : ∀ file ∈ t.files,
                  file.length = (here ++ [name]).length + rest.length := by
                intro file mem
                have depth := level file mem
                simp only [List.length_append, List.length_cons, List.length_nil] at depth ⊢
                omega
              simpa using ih later level' start'

/-! #### Storage ids in the tree -/

section Ids

variable {id id' root : String} {ids : Finset String}

theorem isOrdinary_of_mem_shards (isId : IsStorageId id) :
    ∀ name ∈ (shards id).map String.ofList, IsOrdinary name := by
  intro name mem
  obtain ⟨shard, among, rfl⟩ := List.mem_map.mp mem
  have digits := isLowerHex_of_mem_shards isId among
  have nonempty := ne_nil_of_mem_shards isId among
  have size := Text.length_utf8_ofList fun c mem' => Text.utf8Size_of_isLowerHex (digits c mem')
  have short := (infix_of_mem_shards among).length_le
  have length : id.toList.length = 64 := isId.1
  rw [Text.length_utf8] at size
  refine ⟨?_, ?_, ?_⟩
  · rintro none
    exact nonempty (by simpa using congrArg String.toList none)
  · rintro point
    have spelled : shard = ['.'] := by simpa using congrArg String.toList point
    exact absurd (digits '.' (by simp [spelled])) (by decide)
  · rw [size, maxNameBytes]
    omega

theorem names_shardedPath (isId : IsStorageId id) :
    names (shardedPath id) = (shards id).map String.ofList := by
  have whole {shard : List Char} (mem : shard ∈ shards id) :
      Text.pieces (· = '/') shard = [shard] := by
    refine Text.pieces_of_plain fun c mem' => decide_eq_false ?_
    rintro rfl
    exact absurd (isLowerHex_of_mem_shards isId mem '/' mem') (by decide)
  rw [names, shardedPath, String.toList_ofList, Text.pieces_append (by decide),
    Text.pieces_append (by decide), whole (by simp [shards]), whole (by simp [shards]),
    whole (by simp [shards])]
  rfl

theorem shards_injective : Function.Injective fun id => (shards id).map String.ofList := by
  intro id id' same
  have last := congrArg List.getLast? same
  simpa [shards] using last

/-- The path tells the id. -/
theorem shardedPath_inj (isId : IsStorageId id) (isId' : IsStorageId id')
    (same : shardedPath id = shardedPath id') : id = id' := by
  refine shards_injective ?_
  dsimp only
  rw [← names_shardedPath isId, ← names_shardedPath isId', same]

theorem steps_shardedPath (isId : IsStorageId id) :
    steps (shardedPath id) = (shards id).map String.ofList := by
  rw [steps, names_shardedPath isId]
  refine List.filter_eq_self.mpr fun name mem => ?_
  have ordinary := isOrdinary_of_mem_shards isId name mem
  simp [ordinary.nonempty, ordinary.noPoint]

theorem HoldsExactly.mem_files_iff (exactly : t.HoldsExactly root ids)
    (valid : ∀ id ∈ ids, IsStorageId id) (names : List String) :
    names ∈ t.files ↔ ∃ id ∈ ids, (shards id).map String.ofList = names := by
  rw [exactly.files]
  refine exists_congr fun id => and_congr_right fun mem => ?_
  rw [storagePath?_of_isStorageId (valid id mem), ← steps_shardedPath (valid id mem)]
  simp

/-- The tree finds the bytes of the storage ids, and is not in doubt about any other. -/
theorem HoldsExactly.holds (exactly : t.HoldsExactly root ids)
    (valid : ∀ id ∈ ids, IsStorageId id) (isId : IsStorageId id) :
    t.holds root (shardedPath id) = .ok (decide (id ∈ ids)) := by
  have isFile := exactly.mem_files_iff valid
  have level : ∀ file ∈ t.files,
      file.length = ([] : List String).length + ((shards id).map String.ofList).length := by
    intro file mem
    obtain ⟨id', -, rfl⟩ := (isFile file).mp mem
    rfl
  have start : [] ∉ t.files := fun mem => by cases level [] mem
  obtain ⟨kind, followed, iff⟩ := follow_of_level (isOrdinary_of_mem_shards isId) level start
  have noNul : (shardedPath id).toList.contains '\x00' = false := by
    simpa using fun mem => absurd (digit_of_mem_shardedPath isId mem) (by decide)
  have nameable := exactly.nameable id _ isId (storagePath?_of_isStorageId isId)
  have found : kind = some .file ↔ id ∈ ids := by
    rw [iff, List.nil_append, isFile]
    constructor
    · rintro ⟨id', mem, same⟩
      exact shards_injective same ▸ mem
    · exact fun mem => ⟨id, mem, rfl⟩
  rw [FileTree.holds, leavesRoot_shardedPath isId, lookup, noNul, if_neg (Nat.not_lt.mpr nameable),
    names_shardedPath isId]
  simp [followed, found]

end Ids
end FileTree

/-! ### The gateway -/

namespace Gateway

/-- Behind the path `front` the server has the bytes of the storage ids: it meets a request for one
of them with success and any other with 404. -/
structure ServesExactly (reply : String → Reply) (front : String) (ids : Finset String) : Prop where
  present : ∀ id ∈ ids, ∀ path, storagePath? id = some path →
    reply (front ++ "/" ++ path) = .status 200
  absent : ∀ target,
    (∀ id ∈ ids, ∀ path, storagePath? id = some path → target ≠ front ++ "/" ++ path) →
      reply target = .status 404

variable {site front id : String} {reply : String → Reply} {ids : Finset String}

/-- The path of a storage id behind a base URL is asked for as it is written. -/
theorem targetOn?_shardedPath (isSite : Url.IsSite site) (plain : Url.IsPlainPath front)
    (isId : IsStorageId id) :
    Url.targetOn? site (site ++ front ++ "/" ++ shardedPath id) =
      some (front ++ "/" ++ shardedPath id) := by
  obtain ⟨segments, plain, spelled, -⟩ := plain
  have all : ∀ segment ∈ segments ++ shards id, Url.IsPlainSegment segment := by
    intro segment mem
    rcases List.mem_append.mp mem with mem | mem
    · exact plain segment mem
    · exact Url.isPlainSegment_of_isLowerHex (isLowerHex_of_mem_shards isId mem)
  have joins : front ++ "/" ++ shardedPath id =
      String.ofList (Url.joined (segments ++ shards id)) := by
    rw [Url.joined, List.flatMap_append, String.ofList_append, String.append_assoc,
      ← joined_shards, ← String.ofList_toList (s := front), spelled]
    rfl
  have parts : site ++ front ++ "/" ++ shardedPath id =
      site ++ (front ++ "/" ++ shardedPath id) := by
    simp only [String.append_assoc]
  rw [parts, joins]
  exact Url.targetOn?_joined isSite all (by simp [shards])

theorem ServesExactly.holds (exactly : ServesExactly reply front ids)
    (valid : ∀ id ∈ ids, IsStorageId id) (isSite : Url.IsSite site) (plain : Url.IsPlainPath front)
    (slashes : Nat) (isId : IsStorageId id) :
    (create site (site ++ front ++ String.ofList (List.replicate slashes '/')) reply).holds
      (shardedPath id) = .ok (decide (id ∈ ids)) := by
  rw [Gateway.holds, base_create isSite plain]
  simp only [create]
  rw [targetOn?_shardedPath isSite plain isId]
  by_cases mem : id ∈ ids
  · have met := exactly.present id mem _ (storagePath?_of_isStorageId isId)
    simp [met, verdict, mem]
  · have met : reply (front ++ "/" ++ shardedPath id) = .status 404 := by
      refine exactly.absent _ fun id' mem' path cut same => ?_
      rw [storagePath?_of_isStorageId (valid id' mem')] at cut
      cases cut
      exact mem (FileTree.shardedPath_inj isId (valid id' mem') (by simpa using same) ▸ mem')
    simp [met, verdict, mem]

end Gateway

/-! ### Both -/

section Agreeing

variable {ids : Finset String} {id root site front : String} {tree : FileTree}
  {reply : String → Reply} {e : Surroundings} {p : Progress}

/-- A probe that is carried out is answered by the keeper. -/
theorem Operation.bytesPresent_run {b : Backend} {held : Bool} (isId : IsStorageId id)
    (carried : e.outage p.journal.calls (.probe id) = none)
    (answered : b.holds (shardedPath id) = .ok held) :
    bytesPresent id { e with backend := b } p =
      (.ok held, ⟨p.store, (p.journal.cutting id).calling 1⟩) := by
  rw [bytesPresent, bind_run, pathOf_run (storagePath?_of_isStorageId isId)]
  simp only [call, Journal.calls_cutting, carried, answered, Except.map]

/-- **A file tree and a gateway with the same bytes answer alike.** Let the plain files of a tree be
those of some storage ids, and let its root be short enough that no path of a storage id below it is
longer than the system allows (`FileTree.maxPathBytes`); let a server have the bytes of the same ids
behind a plain path, with any number of slashes at the end of the base URL. Then each probe for a
storage id is answered by both with whether it is one of them: neither fails, and nothing but the
journal has changed. -/
theorem keepers_agree (valid : ∀ id ∈ ids, IsStorageId id) (held : tree.HoldsExactly root ids)
    (isSite : Url.IsSite site) (plain : Url.IsPlainPath front) (slashes : Nat)
    (served : Gateway.ServesExactly reply front ids) (isId : IsStorageId id)
    (carried : e.outage p.journal.calls (.probe id) = none) :
    let base := site ++ front ++ String.ofList (List.replicate slashes '/')
    Operation.bytesPresent id { e with backend := .fileTree root tree } p =
        (.ok (decide (id ∈ ids)), ⟨p.store, (p.journal.cutting id).calling 1⟩) ∧
      Operation.bytesPresent id { e with backend := .gateway (.create site base reply) } p =
        (.ok (decide (id ∈ ids)), ⟨p.store, (p.journal.cutting id).calling 1⟩) := by
  intro base
  constructor
  · exact Operation.bytesPresent_run isId carried (held.holds valid isId)
  · exact Operation.bytesPresent_run isId carried (served.holds valid isSite plain slashes isId)

/-- One digit, as often as a storage id has digits. -/
theorem isStorageId_replicate {c : Char} (digit : Text.IsLowerHex c) :
    IsStorageId (String.ofList (List.replicate 64 c)) := by
  refine ⟨by simp, fun c' mem => ?_⟩
  rw [String.toList_ofList] at mem
  rw [List.eq_of_mem_replicate mem]
  exact digit

theorem utf8ByteSize_shardedPath (isId : IsStorageId id) : (shardedPath id).utf8ByteSize = 70 := by
  have single : ∀ c ∈ (shardedPath id).toList, c.utf8Size = 1 := by
    intro c mem
    rcases digit_of_mem_shardedPath isId mem with rfl | digit
    · rfl
    · exact Text.utf8Size_of_isLowerHex digit
  have size := Text.length_utf8_ofList single
  have length : id.toList.length = 64 := isId.1
  rw [String.ofList_toList, Text.length_utf8] at size
  rw [size, shardedPath, String.toList_ofList]
  simp [length]

theorem keepers_agree_one_file :
    let known := String.ofList (List.replicate 64 '0')
    let other := String.ofList (List.replicate 64 '1')
    let tree := FileTree.empty.addFile (shardedPath known)
    let reply target :=
      if target = "/objects/" ++ shardedPath known then Reply.status 200 else .status 404
    let onDisk := Backend.fileTree "/data" tree
    let remote := Backend.gateway (.create "http://bytes.test" "http://bytes.test/objects//" reply)
    let e := Surroundings.calm .empty
    let p : Progress := ⟨.empty, 0⟩
    (IsStorageId known ∧ IsStorageId other ∧ tree.HoldsExactly "/data" {known} ∧
        Gateway.ServesExactly reply "/objects" {known}) ∧
      (Operation.bytesPresent known { e with backend := onDisk } p).1 = .ok true ∧
      (Operation.bytesPresent known { e with backend := remote } p).1 = .ok true ∧
      (Operation.bytesPresent other { e with backend := onDisk } p).1 = .ok false ∧
      (Operation.bytesPresent other { e with backend := remote } p).1 = .ok false := by
  intro known other tree reply onDisk remote e p
  have isKnown : IsStorageId known := isStorageId_replicate (by decide)
  have isOther : IsStorageId other := isStorageId_replicate (by decide)
  have differ : other ≠ known := fun same =>
    absurd (String.ofList_injective same) (by decide)
  have cut := storagePath?_of_isStorageId isKnown
  have valid : ∀ id ∈ ({known} : Finset String), IsStorageId id := fun id mem => by
    rw [Finset.mem_singleton.mp mem]
    exact isKnown
  have held : tree.HoldsExactly "/data" {known} := by
    refine ⟨fun way => ?_, fun id path isId cut' => ?_⟩
    · simp [tree, FileTree.addFile, FileTree.empty, cut, eq_comm]
    · obtain rfl := Option.some.inj (cut'.symm.trans (storagePath?_of_isStorageId isId))
      rw [utf8ByteSize_shardedPath isId]
      decide
  have served : Gateway.ServesExactly reply "/objects" {known} := by
    refine ⟨fun id mem path cut' => ?_, fun target elsewhere => ?_⟩
    · rw [Finset.mem_singleton.mp mem, cut] at cut'
      cases cut'
      exact if_pos rfl
    · exact if_neg (elsewhere known (Finset.mem_singleton_self _) _ cut)
  have isSite : Url.IsSite "http://bytes.test" := by decide
  have plain : Url.IsPlainPath "/objects" := by
    refine ⟨["objects".toList], fun segment mem => ?_, by decide, by decide⟩
    rw [List.mem_singleton.mp mem]
    decide
  have answers (id : String) (isId : IsStorageId id) :=
    keepers_agree (e := e) (p := p) valid held isSite plain 2 served isId rfl
  obtain ⟨disk, away⟩ := answers known isKnown
  obtain ⟨disk', away'⟩ := answers other isOther
  rw [decide_eq_true (Finset.mem_singleton_self known)] at disk away
  rw [decide_eq_false (mt Finset.mem_singleton.mp differ)] at disk' away'
  exact ⟨⟨isKnown, isOther, held, served⟩, congrArg Prod.fst disk, congrArg Prod.fst away,
    congrArg Prod.fst disk', congrArg Prod.fst away'⟩

end Agreeing
end ContentStore
