/-!
# SHA-256

The digest of a sequence of bytes by the SHA-256 algorithm: the message is padded to
blocks of 64 bytes, each block is expanded to a schedule of 64 words, and 64 rounds over eight words
of state absorb it.
-/

namespace ConfigTables.Sha256

/-- The round constants: the first 32 bits of the fractional parts of the cube roots of the first
64 primes. -/
def roundConstants : List UInt32 :=
  [0x428a2f98, 0x71374491, 0xb5c0fbcf, 0xe9b5dba5, 0x3956c25b, 0x59f111f1, 0x923f82a4, 0xab1c5ed5,
    0xd807aa98, 0x12835b01, 0x243185be, 0x550c7dc3, 0x72be5d74, 0x80deb1fe, 0x9bdc06a7, 0xc19bf174,
    0xe49b69c1, 0xefbe4786, 0x0fc19dc6, 0x240ca1cc, 0x2de92c6f, 0x4a7484aa, 0x5cb0a9dc, 0x76f988da,
    0x983e5152, 0xa831c66d, 0xb00327c8, 0xbf597fc7, 0xc6e00bf3, 0xd5a79147, 0x06ca6351, 0x14292967,
    0x27b70a85, 0x2e1b2138, 0x4d2c6dfc, 0x53380d13, 0x650a7354, 0x766a0abb, 0x81c2c92e, 0x92722c85,
    0xa2bfe8a1, 0xa81a664b, 0xc24b8b70, 0xc76c51a3, 0xd192e819, 0xd6990624, 0xf40e3585, 0x106aa070,
    0x19a4c116, 0x1e376c08, 0x2748774c, 0x34b0bcb5, 0x391c0cb3, 0x4ed8aa4a, 0x5b9cca4f, 0x682e6ff3,
    0x748f82ee, 0x78a5636f, 0x84c87814, 0x8cc70208, 0x90befffa, 0xa4506ceb, 0xbef9a3f7, 0xc67178f2]

/-- The eight words of state. -/
structure State where
  a : UInt32
  b : UInt32
  c : UInt32
  d : UInt32
  e : UInt32
  f : UInt32
  g : UInt32
  h : UInt32

/-- The state before the first block: the first 32 bits of the fractional parts of the square roots
of the first eight primes. -/
def State.start : State :=
  { a := 0x6a09e667
    b := 0xbb67ae85
    c := 0x3c6ef372
    d := 0xa54ff53a
    e := 0x510e527f
    f := 0x9b05688c
    g := 0x1f83d9ab
    h := 0x5be0cd19 }

/-- The words of a state. -/
def State.words (s : State) : List UInt32 :=
  [s.a, s.b, s.c, s.d, s.e, s.f, s.g, s.h]

/-- The sum of two states, word by word. -/
def State.add (s t : State) : State :=
  { a := s.a + t.a
    b := s.b + t.b
    c := s.c + t.c
    d := s.d + t.d
    e := s.e + t.e
    f := s.f + t.f
    g := s.g + t.g
    h := s.h + t.h }

/-- A word rotated to the right. -/
def rotate (w n : UInt32) : UInt32 :=
  (w >>> n) ||| (w <<< (32 - n))

/-- One round, with the sum of the round's schedule word and its constant. -/
def State.round (s : State) (k : UInt32) : State :=
  let sum1 := rotate s.e 6 ^^^ rotate s.e 11 ^^^ rotate s.e 25
  let choice := (s.e &&& s.f) ^^^ (~~~s.e &&& s.g)
  let t1 := s.h + sum1 + choice + k
  let sum0 := rotate s.a 2 ^^^ rotate s.a 13 ^^^ rotate s.a 22
  let majority := (s.a &&& s.b) ^^^ (s.a &&& s.c) ^^^ (s.b &&& s.c)
  { a := t1 + (sum0 + majority)
    b := s.a
    c := s.b
    d := s.c
    e := s.d + t1
    f := s.e
    g := s.f
    h := s.g }

/-- The next word of a schedule, of which the last sixteen words are given, the latest first. -/
def nextWord (latest : List UInt32) : UInt32 :=
  let w2 := latest.getD 1 0
  let w7 := latest.getD 6 0
  let w15 := latest.getD 14 0
  let w16 := latest.getD 15 0
  let small0 := rotate w15 7 ^^^ rotate w15 18 ^^^ (w15 >>> 3)
  let small1 := rotate w2 17 ^^^ rotate w2 19 ^^^ (w2 >>> 10)
  w16 + small0 + w7 + small1

/-- Adds words to a schedule that is given in reverse. -/
def extend : Nat → List UInt32 → List UInt32
  | 0, latest => latest
  | n + 1, latest => extend n (nextWord latest :: latest)

/-- The word of four bytes, the most significant first. -/
def word (a b c d : UInt8) : UInt32 :=
  (a.toUInt32 <<< 24) ||| (b.toUInt32 <<< 16) ||| (c.toUInt32 <<< 8) ||| d.toUInt32

/-- The words of a block. -/
def blockWords : List UInt8 → List UInt32
  | a :: b :: c :: d :: bytes => word a b c d :: blockWords bytes
  | _ => []

/-- The state after a block. -/
def State.absorb (s : State) (block : List UInt8) : State :=
  let schedule := (extend 48 (blockWords block).reverse).reverse
  s.add ((List.zipWith (· + ·) schedule roundConstants).foldl State.round s)

/-- The bytes of a number, the most significant first. -/
def bigEndian : Nat → Nat → List UInt8
  | 0, _ => []
  | size + 1, n => bigEndian size (n / 256) ++ [UInt8.ofNat (n % 256)]

/-- What follows a message of the given size: a one bit, zeros up to the last eight bytes of a
block, and the number of bits of the message. -/
def padding (size : Nat) : List UInt8 :=
  0x80 :: List.replicate ((119 - size % 64) % 64) 0 ++ bigEndian 8 (8 * size)

/-- Absorbs as many blocks as there are. -/
def absorbBlocks : Nat → List UInt8 → State → State
  | 0, _, s => s
  | n + 1, bytes, s => absorbBlocks n (bytes.drop 64) (s.absorb (bytes.take 64))

/-- The bytes of a word. -/
def wordBytes (w : UInt32) : List UInt8 :=
  bigEndian 4 w.toNat

/-- The digest of a message. -/
def digest (message : List UInt8) : List UInt8 :=
  let padded := message ++ padding message.length
  (absorbBlocks (padded.length / 64) padded State.start).words.flatMap wordBytes

/-- A byte in two hexadecimal digits. -/
def hexByte (b : UInt8) : List Char :=
  [Nat.digitChar (b.toNat / 16), Nat.digitChar (b.toNat % 16)]

/-- The digest of a message, in hexadecimal digits. -/
def hexDigest (message : ByteArray) : String :=
  String.ofList ((digest message.toList).flatMap hexByte)

end ConfigTables.Sha256
