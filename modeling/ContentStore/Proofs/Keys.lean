import ContentStore.StorageId
import Mathlib.Data.Set.Function

/-!
# Keys of owners and contents

Different owners and different contents hash different bytes for their storage ids: the digits at
the end have a fixed length, so the owner's text can be cut off in front of them
(`storageIdSource_inj`). Storage ids themselves are only as different as SHA-256 makes them.
`CollisionFree` says that it does not collide on the bytes hashed for a given set of owners and
contents; it cannot hold of all of them at once, since digests are shorter than what is hashed.
-/

namespace ContentStore

namespace Text

theorem Hex.value?_digit {n : Nat} (small : n < 16) : Hex.value? (Hex.digit n) = some n := by
  have all : ∀ n : Fin 16, Hex.value? (Hex.digit n) = some n.val := by decide
  exact all ⟨n, small⟩

theorem Hex.digit_inj {m n : Nat} (smallM : m < 16) (smallN : n < 16)
    (same : Hex.digit m = Hex.digit n) : m = n := by
  have read := Hex.value?_digit smallM
  rw [same, Hex.value?_digit smallN] at read
  exact (Option.some.inj read).symm

theorem Hex.encode_injective : Function.Injective Hex.encode := by
  intro bytes
  induction bytes with
  | nil =>
      intro bytes' same
      cases bytes' with
      | nil => rfl
      | cons b rest => simp [Hex.encode, Hex.pair] at same
  | cons a rest ih =>
      intro bytes' same
      cases bytes' with
      | nil => simp [Hex.encode, Hex.pair] at same
      | cons b rest' =>
          simp only [Hex.encode, List.flatMap_cons, Hex.pair, List.cons_append, List.nil_append,
            List.cons.injEq] at same
          obtain ⟨high, low, tail⟩ := same
          have boundA := a.toNat_lt
          have boundB := b.toNat_lt
          have sameHigh := Hex.digit_inj (by omega) (by omega) high
          have sameLow := Hex.digit_inj (by omega) (by omega) low
          have head : a = b := UInt8.toNat_inj.mp (by omega)
          rw [head, ih tail]

/-- What is written is read back. -/
theorem Hex.decodeFrom_encode (bytes : List UInt8) (position : Nat) :
    Hex.decodeFrom position (Hex.encode bytes) = .ok bytes := by
  induction bytes generalizing position with
  | nil => rfl
  | cons b rest ih =>
      have bound := b.toNat_lt
      have written : Hex.encode (b :: rest) =
          Hex.digit (b.toNat / 16) :: Hex.digit (b.toNat % 16) :: Hex.encode rest := rfl
      have halves : 16 * (b.toNat / 16) + b.toNat % 16 = b.toNat := Nat.div_add_mod _ _
      rw [written, Hex.decodeFrom, Hex.value?_digit (by omega), Hex.value?_digit (by omega)]
      dsimp only
      rw [ih, halves, UInt8.ofNat_toNat]

theorem Hex.exists_digit_of_mem_encode {bytes : List UInt8} {c : Char}
    (mem : c ∈ Hex.encode bytes) : ∃ n : Fin 16, c = Hex.digit n := by
  obtain ⟨b, -, mem⟩ := List.mem_flatMap.mp mem
  have bound := b.toNat_lt
  have half : c = Hex.digit (b.toNat / 16) ∨ c = Hex.digit (b.toNat % 16) := by
    simpa [Hex.pair] using mem
  rcases half with rfl | rfl
  · exact ⟨⟨b.toNat / 16, by omega⟩, rfl⟩
  · exact ⟨⟨b.toNat % 16, by omega⟩, rfl⟩

theorem Hex.utf8Size_of_mem_encode {bytes : List UInt8} {c : Char}
    (mem : c ∈ Hex.encode bytes) : c.utf8Size = 1 := by
  have all : ∀ n : Fin 16, (Hex.digit n).utf8Size = 1 := by decide
  obtain ⟨n, rfl⟩ := Hex.exists_digit_of_mem_encode mem
  exact all n

/-- A text of characters of one byte each has as many bytes as characters. -/
theorem length_utf8_ofList {cs : List Char} (single : ∀ c ∈ cs, c.utf8Size = 1) :
    (utf8 (String.ofList cs)).length = cs.length := by
  rw [length_utf8]
  induction cs with
  | nil => rfl
  | cons c rest ih =>
      obtain ⟨first, later⟩ := List.forall_mem_cons.mp single
      rw [String.ofList_cons, String.utf8ByteSize_append, ih later, String.utf8ByteSize_singleton,
        first, List.length_cons, Nat.add_comm]

theorem utf8_injective : Function.Injective utf8 := by
  intro a b same
  have arrays := Array.ext' same
  exact String.toByteArray_inj.mp (ByteArray.ext arrays)

end Text

/-! ### Content hashes and storage ids -/

theorem ContentHash.hex_injective : Function.Injective ContentHash.hex := by
  rintro ⟨bytes, length⟩ ⟨bytes', length'⟩ same
  have encoded : Text.Hex.encode bytes = Text.Hex.encode bytes' := String.ofList_injective same
  cases Text.Hex.encode_injective encoded
  rfl

theorem ContentHash.length_utf8_hex (hash : ContentHash) : (Text.utf8 hash.hex).length = 64 := by
  rw [hex, Text.length_utf8_ofList fun _ => Text.Hex.utf8Size_of_mem_encode,
    Text.Hex.length_encode, hash.length_eq]

/-- A hash is read from its own digits. -/
theorem ContentHash.parse_hex (hash : ContentHash) : ContentHash.parse hash.hex = .ok hash := by
  have even : ¬hash.hex.utf8ByteSize % 2 = 1 := by
    rw [← Text.length_utf8, hash.length_utf8_hex]
    decide
  rw [parse, Text.Hex.decode, if_neg even, hex, String.toList_ofList, Text.Hex.decodeFrom_encode]
  exact dif_pos hash.length_eq

theorem length_storageId (owner : String) (hash : ContentHash) :
    (storageId owner hash).length = 64 :=
  ContentHash.length_hex _

theorem storageId_ne_empty (owner : String) (hash : ContentHash) : storageId owner hash ≠ "" := by
  intro empty
  have length := length_storageId owner hash
  rw [empty] at length
  cases length

/-- What is hashed for a storage id tells owner and content apart. -/
theorem storageIdSource_inj {owner owner' : String} {hash hash' : ContentHash}
    (same : storageIdSource owner hash = storageIdSource owner' hash') :
    owner = owner' ∧ hash = hash' := by
  unfold storageIdSource at same
  have lengths : (Text.utf8 hash.hex).length = (Text.utf8 hash'.hex).length := by
    rw [hash.length_utf8_hex, hash'.length_utf8_hex]
  obtain ⟨front, digits⟩ := List.append_inj' same lengths
  have owners := List.append_cancel_right front
  exact ⟨Text.utf8_injective owners, ContentHash.hex_injective (Text.utf8_injective digits)⟩

/-- SHA-256 does not collide on what is hashed for these owners and contents. -/
def CollisionFree (used : Set (String × ContentHash)) : Prop :=
  Set.InjOn Sha256.digest ((fun p : String × ContentHash => storageIdSource p.1 p.2) '' used)

theorem CollisionFree.storageId_inj {used : Set (String × ContentHash)} (free : CollisionFree used)
    {owner owner' : String} {hash hash' : ContentHash} (mem : (owner, hash) ∈ used)
    (mem' : (owner', hash') ∈ used) (same : storageId owner hash = storageId owner' hash') :
    owner = owner' ∧ hash = hash' := by
  have digests := congrArg ContentHash.bytes (ContentHash.hex_injective same)
  exact storageIdSource_inj
    (free (Set.mem_image_of_mem _ mem) (Set.mem_image_of_mem _ mem') digests)

/-- One owner's one content cannot collide with itself. -/
theorem collisionFree_singleton (p : String × ContentHash) : CollisionFree {p} := by
  unfold CollisionFree
  rw [Set.image_singleton]
  exact Set.injOn_singleton _ _

/-- Two that do not collide with each other do not collide at all. -/
theorem collisionFree_pair {p q : String × ContentHash}
    (apart : Sha256.digest (storageIdSource p.1 p.2) ≠ Sha256.digest (storageIdSource q.1 q.2)) :
    CollisionFree {p, q} := by
  unfold CollisionFree
  rw [Set.image_pair]
  rintro a (rfl | rfl) b (rfl | rfl) same
  · rfl
  · exact absurd same apart
  · exact absurd same.symm apart
  · rfl

end ContentStore
