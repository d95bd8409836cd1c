import ContentStore.Proofs.Keepers

/-!
# Storage ids of different owners and contents

What is hashed for a storage id tells the owner and the content, although the owner's text may hold
slashes and digits itself (`storageIdSource_inj`). So storage ids keep owners and contents apart
wherever SHA-256 keeps apart what is hashed for them, and nowhere else
(`collisionFree_iff_injOn`). Their paths are as different as the ids (`storage_ids_separate`).
-/

namespace ContentStore

section Separation

variable {owner owner' : String} {hash hash' : ContentHash} {used : Set (String × ContentHash)}

theorem storageIdSource_eq_iff :
    storageIdSource owner hash = storageIdSource owner' hash' ↔ owner = owner' ∧ hash = hash' := by
  constructor
  · exact storageIdSource_inj
  · rintro ⟨rfl, rfl⟩
    rfl

/-- Storage ids are the same where the digests are. -/
theorem storageId_eq_iff :
    storageId owner hash = storageId owner' hash' ↔
      Sha256.digest (storageIdSource owner hash) =
        Sha256.digest (storageIdSource owner' hash') := by
  unfold storageId
  rw [ContentHash.hex_injective.eq_iff, ContentHash.ofContent, ContentHash.ofContent,
    ContentHash.mk.injEq]

/-- Where SHA-256 does not collide, storage ids tell owners and contents apart, and where it
collides, they do not. -/
theorem collisionFree_iff_injOn :
    CollisionFree used ↔ Set.InjOn (fun p : String × ContentHash => storageId p.1 p.2) used := by
  constructor
  · rintro free ⟨owner, hash⟩ mem ⟨owner', hash'⟩ mem' same
    obtain ⟨rfl, rfl⟩ := free.storageId_inj mem mem' same
    rfl
  · rintro apart _ ⟨p, mem, rfl⟩ _ ⟨q, mem', rfl⟩ same
    rw [apart mem mem' (storageId_eq_iff.mpr same)]

/-- **Storage ids separate owners and contents.** The bytes that are hashed for two storage ids are
the same only for one owner and one content, whatever the texts of the owners. The ids are the same
only then, exactly unless SHA-256 collides on these bytes. Both ids have a path, and the paths are
the same only if the ids are. -/
theorem storage_ids_separate (owner owner' : String) (hash hash' : ContentHash) :
    (storageIdSource owner hash = storageIdSource owner' hash' ↔ owner = owner' ∧ hash = hash') ∧
    (CollisionFree {(owner, hash), (owner', hash')} ↔
      (storageId owner hash = storageId owner' hash' ↔ owner = owner' ∧ hash = hash')) ∧
    ∃ path path', storagePath? (storageId owner hash) = some path ∧
      storagePath? (storageId owner' hash') = some path' ∧
      (path = path' ↔ storageId owner hash = storageId owner' hash') := by
  have isId := isStorageId_storageId owner hash
  have isId' := isStorageId_storageId owner' hash'
  refine ⟨storageIdSource_eq_iff, ?_, _, _, storagePath?_of_isStorageId isId,
    storagePath?_of_isStorageId isId', FileTree.shardedPath_inj isId isId', congrArg shardedPath⟩
  rw [collisionFree_iff_injOn, Set.injOn_pair, Prod.mk.injEq]
  constructor
  · intro apart
    refine ⟨apart, ?_⟩
    rintro ⟨rfl, rfl⟩
    rfl
  · exact Iff.mp

set_option maxRecDepth 10000 in
/-- An owner can have the text that is hashed for another owner's content as a name. -/
theorem storage_ids_separate_nested :
    let nested := "ann/" ++ ContentHash.zeros.hex
    storageIdSource nested .zeros =
        storageIdSource "ann" .zeros ++ Text.utf8 "/" ++ Text.utf8 ContentHash.zeros.hex ∧
      storageId "ann" .zeros ≠ storageId nested .zeros ∧
      storagePath? (storageId "ann" .zeros) ≠ storagePath? (storageId nested .zeros) := by
  intro nested
  have free : CollisionFree {("ann", ContentHash.zeros), (nested, .zeros)} :=
    collisionFree_pair (by decide +kernel)
  obtain ⟨-, separate, path, path', found, found', paths⟩ :=
    storage_ids_separate "ann" nested .zeros .zeros
  have other : "ann" ≠ nested := by decide
  have apart : storageId "ann" .zeros ≠ storageId nested .zeros := fun same =>
    other ((separate.mp free).mp same).1
  refine ⟨by decide +kernel, apart, ?_⟩
  rw [found, found']
  exact fun same => apart (paths.mp (Option.some.inj same))

end Separation
end ContentStore
