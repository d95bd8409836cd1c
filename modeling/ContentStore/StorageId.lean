import ContentStore.ContentHash

/-!
# Storage ids and paths

The key of one owner's copy of some content, and the path of its bytes. The key hashes the owner,
a slash and the digits of the content hash, so it tells nothing about either; the path puts two
directories of two bytes each in front of the key.
-/

namespace ContentStore

/-- The bytes that are hashed for a storage id. -/
def storageIdSource (owner : String) (hash : ContentHash) : List UInt8 :=
  Text.utf8 owner ++ Text.utf8 "/" ++ Text.utf8 hash.hex

/-- The key of an owner's copy of some content. -/
def storageId (owner : String) (hash : ContentHash) : String :=
  (ContentHash.ofContent (storageIdSource owner hash)).hex

/-- Splits a list of characters after exactly `bytes` bytes of UTF-8, if a character ends there. -/
def splitAtByte : List Char → (bytes : Nat) → Option (List Char × List Char)
  | cs, 0 => some ([], cs)
  | [], _ + 1 => none
  | c :: rest, bytes + 1 =>
    if c.utf8Size ≤ bytes + 1 then
      (splitAtByte rest (bytes + 1 - c.utf8Size)).map fun (a, b) => (c :: a, b)
    else none

/-- The path of the bytes for a storage id. An id whose fourth byte ends no character is its own
path. An id that can be cut after four bytes but not after two has none. -/
def storagePath? (id : String) : Option String :=
  match splitAtByte id.toList 4 with
  | none => some id
  | some (four, _) =>
    (splitAtByte four 2).map fun (first, second) =>
      String.ofList (first ++ '/' :: second ++ '/' :: id.toList)

end ContentStore
