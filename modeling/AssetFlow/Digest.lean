/-!
# The digest SHA-256

A digest of 32 bytes of a row of bytes.

## Main definitions

- `Digest.sha256`: the digest.
- `Digest.hex`: bytes as hexadecimal digits.
-/

namespace AssetFlow.Digest

/-- The constants of the rounds. -/
def roundConstants : Array UInt32 := #[
  0x428a2f98, 0x71374491, 0xb5c0fbcf, 0xe9b5dba5, 0x3956c25b, 0x59f111f1, 0x923f82a4, 0xab1c5ed5,
  0xd807aa98, 0x12835b01, 0x243185be, 0x550c7dc3, 0x72be5d74, 0x80deb1fe, 0x9bdc06a7, 0xc19bf174,
  0xe49b69c1, 0xefbe4786, 0x0fc19dc6, 0x240ca1cc, 0x2de92c6f, 0x4a7484aa, 0x5cb0a9dc, 0x76f988da,
  0x983e5152, 0xa831c66d, 0xb00327c8, 0xbf597fc7, 0xc6e00bf3, 0xd5a79147, 0x06ca6351, 0x14292967,
  0x27b70a85, 0x2e1b2138, 0x4d2c6dfc, 0x53380d13, 0x650a7354, 0x766a0abb, 0x81c2c92e, 0x92722c85,
  0xa2bfe8a1, 0xa81a664b, 0xc24b8b70, 0xc76c51a3, 0xd192e819, 0xd6990624, 0xf40e3585, 0x106aa070,
  0x19a4c116, 0x1e376c08, 0x2748774c, 0x34b0bcb5, 0x391c0cb3, 0x4ed8aa4a, 0x5b9cca4f, 0x682e6ff3,
  0x748f82ee, 0x78a5636f, 0x84c87814, 0x8cc70208, 0x90befffa, 0xa4506ceb, 0xbef9a3f7, 0xc67178f2]

/-- The eight words that blocks are mixed into. -/
structure Chain where
  a : UInt32
  b : UInt32
  c : UInt32
  d : UInt32
  e : UInt32
  f : UInt32
  g : UInt32
  h : UInt32
  deriving DecidableEq, Repr, Inhabited

/-- The words before the first block. -/
def Chain.start : Chain :=
  ⟨0x6a09e667, 0xbb67ae85, 0x3c6ef372, 0xa54ff53a, 0x510e527f, 0x9b05688c, 0x1f83d9ab, 0x5be0cd19⟩

/-- The words added one by one. -/
def Chain.add (x y : Chain) : Chain :=
  ⟨x.a + y.a, x.b + y.b, x.c + y.c, x.d + y.d, x.e + y.e, x.f + y.f, x.g + y.g, x.h + y.h⟩

/-- The bits of a word turned to the right. -/
def turn (x n : UInt32) : UInt32 :=
  (x >>> n) ||| (x <<< (32 - n))

/-- The word that four bytes make, the first of them being the highest. -/
def word (bytes : List UInt8) : UInt32 :=
  bytes.foldl (fun w b => (w <<< 8) ||| b.toUInt32) 0

/-- The bytes of a word, the highest first. -/
def wordBytes (w : UInt32) : List UInt8 :=
  [(w >>> 24).toUInt8, (w >>> 16).toUInt8, (w >>> 8).toUInt8, w.toUInt8]

/-- The next word of the schedule after at least sixteen words. -/
def nextWord (ws : Array UInt32) : UInt32 :=
  let back (k : Nat) : UInt32 := ws.getD (ws.size - k) 0
  let x := back 15
  let y := back 2
  let s0 := turn x 7 ^^^ turn x 18 ^^^ (x >>> 3)
  let s1 := turn y 17 ^^^ turn y 19 ^^^ (y >>> 10)
  back 16 + s0 + back 7 + s1

/-- The 64 words of the schedule of a block of 16 words. -/
def schedule (block : Array UInt32) : Array UInt32 :=
  (List.range 48).foldl (fun ws _ => ws.push (nextWord ws)) block

/-- One round. -/
def round (c : Chain) (k w : UInt32) : Chain :=
  let s1 := turn c.e 6 ^^^ turn c.e 11 ^^^ turn c.e 25
  let choice := (c.e &&& c.f) ^^^ (c.e.complement &&& c.g)
  let t1 := c.h + s1 + choice + k + w
  let s0 := turn c.a 2 ^^^ turn c.a 13 ^^^ turn c.a 22
  let majority := (c.a &&& c.b) ^^^ (c.a &&& c.c) ^^^ (c.b &&& c.c)
  ⟨t1 + (s0 + majority), c.a, c.b, c.c, c.d + t1, c.e, c.f, c.g⟩

/-- Mixes a block of 64 bytes in. -/
def mix (c : Chain) (block : List UInt8) : Chain :=
  let words := (List.range 16).map fun i => word ((block.drop (4 * i)).take 4)
  let ws := schedule words.toArray
  c.add ((List.range 64).foldl (fun c i => round c (roundConstants.getD i 0) (ws.getD i 0)) c)

/-- The bytes with a mark, zeros and their length in bits after them, a multiple of 64 bytes. -/
def padded (bytes : List UInt8) : List UInt8 :=
  let n := bytes.length
  let zeros := (119 - n % 64) % 64
  let bits := 8 * n
  bytes ++ 0x80 :: List.replicate zeros 0 ++
    wordBytes (UInt32.ofNat (bits / UInt32.size)) ++ wordBytes (UInt32.ofNat bits)

/-- Mixes blocks in, at most `n` of them. -/
def mixAll : Nat → Chain → List UInt8 → Chain
  | 0, c, _ => c
  | n + 1, c, bytes => if bytes.isEmpty then c else mixAll n (mix c (bytes.take 64)) (bytes.drop 64)

/-- The digest of a row of bytes. -/
def sha256 (bytes : List UInt8) : List UInt8 :=
  let all := padded bytes
  let c := mixAll (all.length / 64) .start all
  [c.a, c.b, c.c, c.d, c.e, c.f, c.g, c.h].flatMap wordBytes

/-- Bytes as hexadecimal digits. -/
def hex (bytes : List UInt8) : String :=
  String.ofList <| bytes.flatMap fun b =>
    [Nat.digitChar (b.toNat / 16), Nat.digitChar (b.toNat % 16)]

end AssetFlow.Digest
