/-!
# SHA-256

The digest of a list of bytes, as 32 bytes. A block of sixteen words is stretched to sixty-four
(`schedule`), and each of them drives one round over eight words (`Chaining.round`).
-/

namespace ContentStore.Sha256

/-- The eight words carried from block to block. -/
structure Chaining where
  a : UInt32
  b : UInt32
  c : UInt32
  d : UInt32
  e : UInt32
  f : UInt32
  g : UInt32
  h : UInt32

/-- A word turned to the right by `n` bits. -/
def rotate (x : UInt32) (n : UInt32) : UInt32 :=
  (x >>> n) ||| (x <<< (32 - n))

/-- The constants of the sixty-four rounds. -/
def roundConstants : List UInt32 :=
  [0x428a2f98, 0x71374491, 0xb5c0fbcf, 0xe9b5dba5, 0x3956c25b, 0x59f111f1, 0x923f82a4, 0xab1c5ed5,
   0xd807aa98, 0x12835b01, 0x243185be, 0x550c7dc3, 0x72be5d74, 0x80deb1fe, 0x9bdc06a7, 0xc19bf174,
   0xe49b69c1, 0xefbe4786, 0x0fc19dc6, 0x240ca1cc, 0x2de92c6f, 0x4a7484aa, 0x5cb0a9dc, 0x76f988da,
   0x983e5152, 0xa831c66d, 0xb00327c8, 0xbf597fc7, 0xc6e00bf3, 0xd5a79147, 0x06ca6351, 0x14292967,
   0x27b70a85, 0x2e1b2138, 0x4d2c6dfc, 0x53380d13, 0x650a7354, 0x766a0abb, 0x81c2c92e, 0x92722c85,
   0xa2bfe8a1, 0xa81a664b, 0xc24b8b70, 0xc76c51a3, 0xd192e819, 0xd6990624, 0xf40e3585, 0x106aa070,
   0x19a4c116, 0x1e376c08, 0x2748774c, 0x34b0bcb5, 0x391c0cb3, 0x4ed8aa4a, 0x5b9cca4f, 0x682e6ff3,
   0x748f82ee, 0x78a5636f, 0x84c87814, 0x8cc70208, 0x90befffa, 0xa4506ceb, 0xbef9a3f7, 0xc67178f2]

/-- The words before the first block. -/
def initial : Chaining :=
  ⟨0x6a09e667, 0xbb67ae85, 0x3c6ef372, 0xa54ff53a, 0x510e527f, 0x9b05688c, 0x1f83d9ab, 0x5be0cd19⟩

/-- Adds `n` words to a schedule, each from four of the last sixteen. -/
def stretch : Nat → Array UInt32 → Array UInt32
  | 0, w => w
  | n + 1, w =>
    let back := fun k => w.getD (w.size - k) 0
    let x := back 15
    let y := back 2
    let low := rotate x 7 ^^^ rotate x 18 ^^^ (x >>> 3)
    let high := rotate y 17 ^^^ rotate y 19 ^^^ (y >>> 10)
    stretch n (w.push (high + back 7 + low + back 16))

/-- The sixty-four words of a block of sixteen. -/
def schedule (block : List UInt32) : List UInt32 :=
  (stretch 48 block.toArray).toList

/-- One round, with its constant and its word. -/
def Chaining.round (s : Chaining) (k w : UInt32) : Chaining :=
  let big := rotate s.e 6 ^^^ rotate s.e 11 ^^^ rotate s.e 25
  let choice := (s.e &&& s.f) ^^^ ((~~~ s.e) &&& s.g)
  let first := s.h + big + choice + k + w
  let small := rotate s.a 2 ^^^ rotate s.a 13 ^^^ rotate s.a 22
  let majority := (s.a &&& s.b) ^^^ (s.a &&& s.c) ^^^ (s.b &&& s.c)
  ⟨first + small + majority, s.a, s.b, s.c, s.d + first, s.e, s.f, s.g⟩

/-- Sixty-four rounds over a block, added word by word to where they started. -/
def Chaining.block (s : Chaining) (words : List UInt32) : Chaining :=
  let r := (roundConstants.zip (schedule words)).foldl (fun t kw => t.round kw.1 kw.2) s
  ⟨s.a + r.a, s.b + r.b, s.c + r.c, s.d + r.d, s.e + r.e, s.f + r.f, s.g + r.g, s.h + r.h⟩

/-- Bytes as words, most significant byte first. -/
def words : List UInt8 → List UInt32
  | a :: b :: c :: d :: rest =>
    (a.toUInt32 <<< 24 ||| b.toUInt32 <<< 16 ||| c.toUInt32 <<< 8 ||| d.toUInt32) :: words rest
  | _ => []

/-- A word as bytes, most significant first. -/
def wordBytes (w : UInt32) : List UInt8 :=
  [(w >>> 24).toUInt8, (w >>> 16).toUInt8, (w >>> 8).toUInt8, w.toUInt8]

/-- A number of 64 bits as bytes, most significant first. -/
def lengthBytes (n : Nat) : List UInt8 :=
  wordBytes (UInt32.ofNat (n / 4294967296)) ++ wordBytes (UInt32.ofNat n)

/-- The message, a set bit, zeros up to eight bytes short of a whole block, and the length of the
message in bits. -/
def pad (message : List UInt8) : List UInt8 :=
  let zeros := (119 - message.length % 64) % 64
  message ++ 0x80 :: List.replicate zeros 0 ++ lengthBytes (8 * message.length)

/-- Takes `n` blocks of sixteen words in turn. -/
def Chaining.blocks : Nat → Chaining → List UInt32 → Chaining
  | 0, s, _ => s
  | n + 1, s, ws => blocks n (s.block (ws.take 16)) (ws.drop 16)

/-- The 32 bytes of the carried words. -/
def Chaining.bytes (s : Chaining) : List UInt8 :=
  [s.a, s.b, s.c, s.d, s.e, s.f, s.g, s.h].flatMap wordBytes

/-- The digest of a message. -/
def digest (message : List UInt8) : List UInt8 :=
  let ws := words (pad message)
  (initial.blocks (ws.length / 16) ws).bytes

/-- A digest has 32 bytes. -/
theorem length_digest (message : List UInt8) : (digest message).length = 32 := by
  simp [digest, Chaining.bytes, wordBytes]

end ContentStore.Sha256
