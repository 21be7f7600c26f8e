/-
# The SHA-256 digest

The message is padded to blocks of sixty-four octets; each block mixes its schedule of sixty-four
words into a state of eight words; the last state, written big end first, is the digest. Words add
modulo `2 ^ 32`.
-/

namespace ContentQuery.Sha256

/-- The sixty-four round constants: the first thirty-two fractional bits of the cube roots of the
first sixty-four primes. -/
def roundConstants : List UInt32 := [
  0x428a2f98, 0x71374491, 0xb5c0fbcf, 0xe9b5dba5, 0x3956c25b, 0x59f111f1,
  0x923f82a4, 0xab1c5ed5, 0xd807aa98, 0x12835b01, 0x243185be, 0x550c7dc3,
  0x72be5d74, 0x80deb1fe, 0x9bdc06a7, 0xc19bf174, 0xe49b69c1, 0xefbe4786,
  0x0fc19dc6, 0x240ca1cc, 0x2de92c6f, 0x4a7484aa, 0x5cb0a9dc, 0x76f988da,
  0x983e5152, 0xa831c66d, 0xb00327c8, 0xbf597fc7, 0xc6e00bf3, 0xd5a79147,
  0x06ca6351, 0x14292967, 0x27b70a85, 0x2e1b2138, 0x4d2c6dfc, 0x53380d13,
  0x650a7354, 0x766a0abb, 0x81c2c92e, 0x92722c85, 0xa2bfe8a1, 0xa81a664b,
  0xc24b8b70, 0xc76c51a3, 0xd192e819, 0xd6990624, 0xf40e3585, 0x106aa070,
  0x19a4c116, 0x1e376c08, 0x2748774c, 0x34b0bcb5, 0x391c0cb3, 0x4ed8aa4a,
  0x5b9cca4f, 0x682e6ff3, 0x748f82ee, 0x78a5636f, 0x84c87814, 0x8cc70208,
  0x90befffa, 0xa4506ceb, 0xbef9a3f7, 0xc67178f2
]

/-- The eight words of the state. -/
structure State where
  a : UInt32
  b : UInt32
  c : UInt32
  d : UInt32
  e : UInt32
  f : UInt32
  g : UInt32
  h : UInt32

namespace State

/-- The first state: the first thirty-two fractional bits of the square roots of the first eight
primes. -/
def start : State :=
  ⟨0x6a09e667, 0xbb67ae85, 0x3c6ef372, 0xa54ff53a,
    0x510e527f, 0x9b05688c, 0x1f83d9ab, 0x5be0cd19⟩

/-- Adds two states word by word. -/
def add (s t : State) : State :=
  ⟨s.a + t.a, s.b + t.b, s.c + t.c, s.d + t.d, s.e + t.e, s.f + t.f, s.g + t.g, s.h + t.h⟩

/-- The words of a state in order. -/
def words (s : State) : List UInt32 := [s.a, s.b, s.c, s.d, s.e, s.f, s.g, s.h]

end State

/-- Rotates a word to the right. -/
def rotateRight (word amount : UInt32) : UInt32 :=
  (word >>> amount) ||| (word <<< (32 - amount))

/-- One round: the state moves down a word, and a constant and a schedule word enter it. -/
def round (s : State) (constant word : UInt32) : State :=
  let bigSigma1 := rotateRight s.e 6 ^^^ rotateRight s.e 11 ^^^ rotateRight s.e 25
  let choice := (s.e &&& s.f) ^^^ (~~~s.e &&& s.g)
  let first := s.h + bigSigma1 + choice + constant + word
  let bigSigma0 := rotateRight s.a 2 ^^^ rotateRight s.a 13 ^^^ rotateRight s.a 22
  let majority := (s.a &&& s.b) ^^^ (s.a &&& s.c) ^^^ (s.b &&& s.c)
  ⟨first + (bigSigma0 + majority), s.a, s.b, s.c, s.d + first, s.e, s.f, s.g⟩

/-- Appends the schedule word that the sixteen words before it determine. -/
def extendSchedule (schedule : Array UInt32) : Array UInt32 :=
  let back (distance : Nat) := schedule.getD (schedule.size - distance) 0
  let near := back 2
  let far := back 15
  let smallSigma1 := rotateRight near 17 ^^^ rotateRight near 19 ^^^ (near >>> 10)
  let smallSigma0 := rotateRight far 7 ^^^ rotateRight far 18 ^^^ (far >>> 3)
  schedule.push (back 16 + smallSigma0 + back 7 + smallSigma1)

/-- The sixty-four schedule words of a block of sixteen. -/
def schedule (block : List UInt32) : List UInt32 :=
  (Nat.repeat extendSchedule 48 block.toArray).toList

/-- Mixes a block of sixteen words into a state. -/
def compress (s : State) (block : List UInt32) : State :=
  s.add ((roundConstants.zip (schedule block)).foldl (fun s (k, w) => round s k w) s)

/-- A natural number as the given count of octets, big end first. -/
def octets (count value : Nat) : List UInt8 :=
  (List.range count).reverse.map fun i => UInt8.ofNat (value / Nat.pow 256 i)

/-- Pads a message to whole blocks: a one bit, zeros, and the length in bits as eight octets. -/
def pad (message : List UInt8) : List UInt8 :=
  message ++ 0x80 :: List.replicate ((119 - message.length % 64) % 64) 0
    ++ octets 8 (message.length * 8)

/-- Groups octets into words, big end first; fewer than four at the end are dropped. -/
def toWords : List UInt8 → List UInt32
  | a :: b :: c :: d :: rest =>
    ((a.toUInt32 <<< 24) ||| (b.toUInt32 <<< 16) ||| (c.toUInt32 <<< 8) ||| d.toUInt32)
      :: toWords rest
  | _ => []

/-- Mixes the words in, sixteen at a time; `blocks` is how many blocks there are. -/
def absorb (s : State) (words : List UInt32) : Nat → State
  | 0 => s
  | blocks + 1 => absorb (compress s (words.take 16)) (words.drop 16) blocks

/-- The digest of a message, thirty-two octets. -/
def digest (message : List UInt8) : List UInt8 :=
  let words := toWords (pad message)
  (absorb State.start words (words.length / 16)).words.flatMap fun w => octets 4 w.toNat

end ContentQuery.Sha256
