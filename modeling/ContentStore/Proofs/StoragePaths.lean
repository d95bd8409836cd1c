import ContentStore.Backend.FileTree
import ContentStore.Proofs.Identity

/-!
# Paths of storage ids

Cutting a path is partial: a text whose second byte ends no character has none, and a short one is
its own. A storage id has 64 digits of one byte each, so it has a path of two folders and itself
(`storagePath?_of_isStorageId`). That path starts with a digit and has no point in it, and the file
tree never refuses to look there (`FileTree.leavesRoot_shardedPath`).
-/

namespace ContentStore

/-- Characters of one byte each are split after as many characters as bytes. -/
theorem splitAtByte_eq {cs : List Char} (single : ∀ c ∈ cs, c.utf8Size = 1) {n : Nat}
    (short : n ≤ cs.length) : splitAtByte cs n = some (cs.take n, cs.drop n) := by
  induction cs generalizing n with
  | nil =>
      obtain rfl := Nat.le_zero.mp short
      rfl
  | cons c rest ih =>
      obtain ⟨first, later⟩ := List.forall_mem_cons.mp single
      cases n with
      | zero => rfl
      | succ n =>
          rw [splitAtByte, if_pos (by omega), first, Nat.add_sub_cancel,
            ih later (Nat.le_of_succ_le_succ short)]
          rfl

/-- Two folders, of two digits of the id each, and the id. -/
def shardedPath (id : String) : String :=
  String.ofList (id.toList.take 2 ++ '/' :: (id.toList.drop 2).take 2 ++ '/' :: id.toList)

/-- A storage id has a path. -/
theorem storagePath?_of_isStorageId {id : String} (isId : IsStorageId id) :
    storagePath? id = some (shardedPath id) := by
  have single : ∀ c ∈ id.toList, c.utf8Size = 1 := fun c mem =>
    Text.utf8Size_of_isLowerHex (isId.2 c mem)
  have long : id.toList.length = 64 := isId.1
  have cut : splitAtByte id.toList 4 = some (id.toList.take 4, id.toList.drop 4) :=
    splitAtByte_eq single (by omega)
  have halves : splitAtByte (id.toList.take 4) 2 =
      some (id.toList.take 2, (id.toList.drop 2).take 2) := by
    have short : 2 ≤ (id.toList.take 4).length := by
      rw [List.length_take, long]
      decide
    rw [splitAtByte_eq (fun c mem => single c (List.mem_of_mem_take mem)) short, List.take_take,
      List.drop_take]
    rfl
  rw [storagePath?, cut]
  dsimp only
  rw [halves]
  rfl

/-- The URL of a grant for a storage id. -/
theorem Issuer.url?_of_isStorageId {i : Issuer} {grant : Grant}
    (isId : IsStorageId grant.storageId) :
    i.url? grant =
      some (i.publicUrl ++ "/" ++ shardedPath grant.storageId ++ "?token=" ++ i.token grant) := by
  rw [Issuer.url?, storagePath?_of_isStorageId isId]
  rfl

namespace FileTree

theorem hasDoublePoint_of_notMem {cs : List Char} (none : '.' ∉ cs) :
    hasDoublePoint cs = false := by
  induction cs with
  | nil => rfl
  | cons c rest ih =>
      obtain ⟨first, later⟩ := List.ne_and_not_mem_of_not_mem_cons none
      rw [hasDoublePoint]
      · exact ih later
      · rintro rest' rfl
        exact absurd rfl first

/-- The path of a storage id stays below the root. -/
theorem leavesRoot_shardedPath {id : String} (isId : IsStorageId id) :
    leavesRoot (shardedPath id) = false := by
  have digits : ∀ c ∈ id.toList, c ≠ '.' ∧ c ≠ '/' := by
    intro c mem
    have digit := isId.2 c mem
    constructor <;> rintro rfl <;> exact absurd digit (by decide)
  obtain ⟨first, rest, front⟩ : ∃ first rest, id.toList = first :: rest :=
    List.exists_cons_of_length_eq_add_one (n := 63) isId.1
  have points : '.' ∉ id.toList := fun mem => (digits '.' mem).1 rfl
  have noPoint :
      '.' ∉ id.toList.take 2 ++ '/' :: (id.toList.drop 2).take 2 ++ '/' :: id.toList := by
    have early : '.' ∉ id.toList.take 2 := fun mem => points (List.mem_of_mem_take mem)
    have late : '.' ∉ (id.toList.drop 2).take 2 := fun mem =>
      points (List.mem_of_mem_drop (List.mem_of_mem_take mem))
    simp [early, late, points]
  have start : first ≠ '/' := (digits first (front ▸ List.mem_cons_self)).2
  unfold leavesRoot shardedPath
  rw [String.toList_ofList, hasDoublePoint_of_notMem noPoint, front]
  simp [start]

end FileTree
end ContentStore
