import ContentStore.Digest.Sha256

/-!
# HMAC over SHA-256

A keyed digest: the key is brought to the length of a block, and the message is digested twice,
each time behind the key under another mask.
-/

namespace ContentStore.Hmac

/-- The key as one block of 64 bytes: a longer key is digested first. -/
def blockKey (key : List UInt8) : List UInt8 :=
  let short := if key.length > 64 then Sha256.digest key else key
  short ++ List.replicate (64 - short.length) 0

/-- The keyed digest of a message. -/
def sign (key message : List UInt8) : List UInt8 :=
  let block := blockKey key
  Sha256.digest (block.map (· ^^^ 0x5C) ++ Sha256.digest (block.map (· ^^^ 0x36) ++ message))

end ContentStore.Hmac
