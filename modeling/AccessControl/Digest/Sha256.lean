/-
SHA-256: a digest of 32 bytes.
-/
namespace AccessControl.Digest.Sha256

/-- The constants of the rounds: the first bits of the fractions of the cube roots of the first 64
primes. -/
def constants : Array UInt32 :=
  #[0x428a2f98, 0x71374491, 0xb5c0fbcf, 0xe9b5dba5, 0x3956c25b, 0x59f111f1, 0x923f82a4,
    0xab1c5ed5, 0xd807aa98, 0x12835b01, 0x243185be, 0x550c7dc3, 0x72be5d74, 0x80deb1fe,
    0x9bdc06a7, 0xc19bf174, 0xe49b69c1, 0xefbe4786, 0x0fc19dc6, 0x240ca1cc, 0x2de92c6f,
    0x4a7484aa, 0x5cb0a9dc, 0x76f988da, 0x983e5152, 0xa831c66d, 0xb00327c8, 0xbf597fc7,
    0xc6e00bf3, 0xd5a79147, 0x06ca6351, 0x14292967, 0x27b70a85, 0x2e1b2138, 0x4d2c6dfc,
    0x53380d13, 0x650a7354, 0x766a0abb, 0x81c2c92e, 0x92722c85, 0xa2bfe8a1, 0xa81a664b,
    0xc24b8b70, 0xc76c51a3, 0xd192e819, 0xd6990624, 0xf40e3585, 0x106aa070, 0x19a4c116,
    0x1e376c08, 0x2748774c, 0x34b0bcb5, 0x391c0cb3, 0x4ed8aa4a, 0x5b9cca4f, 0x682e6ff3,
    0x748f82ee, 0x78a5636f, 0x84c87814, 0x8cc70208, 0x90befffa, 0xa4506ceb, 0xbef9a3f7,
    0xc67178f2]

/-- The eight words that change from round to round. -/
structure Words where
  a : UInt32
  b : UInt32
  c : UInt32
  d : UInt32
  e : UInt32
  f : UInt32
  g : UInt32
  h : UInt32
deriving DecidableEq, Repr

namespace Words

/-- The first bits of the fractions of the square roots of the first eight primes. -/
def initial : Words :=
  ⟨0x6a09e667, 0xbb67ae85, 0x3c6ef372, 0xa54ff53a, 0x510e527f, 0x9b05688c, 0x1f83d9ab,
    0x5be0cd19⟩

def add (x y : Words) : Words :=
  ⟨x.a + y.a, x.b + y.b, x.c + y.c, x.d + y.d, x.e + y.e, x.f + y.f, x.g + y.g, x.h + y.h⟩

def toList (w : Words) : List UInt32 := [w.a, w.b, w.c, w.d, w.e, w.f, w.g, w.h]

end Words

def rotate (x : UInt32) (n : UInt32) : UInt32 := (x >>> n) ||| (x <<< (32 - n))

/-- One round with its constant and its word of the schedule. -/
def round (w : Words) (constant word : UInt32) : Words :=
  let mixed := rotate w.e 6 ^^^ rotate w.e 11 ^^^ rotate w.e 25
  let chosen := (w.e &&& w.f) ^^^ (~~~w.e &&& w.g)
  let first := w.h + mixed + chosen + constant + word
  let turned := rotate w.a 2 ^^^ rotate w.a 13 ^^^ rotate w.a 22
  let most := (w.a &&& w.b) ^^^ (w.a &&& w.c) ^^^ (w.b &&& w.c)
  ⟨first + turned + most, w.a, w.b, w.c, w.d + first, w.e, w.f, w.g⟩

/-- Adds so many words to a schedule, each made from four of the sixteen before it. -/
def extend : Nat → Array UInt32 → Array UInt32
  | 0, words => words
  | n + 1, words =>
    let back (k : Nat) : UInt32 := words.getD (words.size - k) 0
    let x := back 15
    let y := back 2
    let low := rotate x 7 ^^^ rotate x 18 ^^^ (x >>> 3)
    let high := rotate y 17 ^^^ rotate y 19 ^^^ (y >>> 10)
    extend n (words.push (back 16 + low + back 7 + high))

/-- The words of bytes, four bytes each, the first one highest. -/
def wordsOf : List UInt8 → List UInt32
  | a :: b :: c :: d :: rest =>
    ((a.toUInt32 <<< 24) ||| (b.toUInt32 <<< 16) ||| (c.toUInt32 <<< 8) ||| d.toUInt32) ::
      wordsOf rest
  | _ => []

def bytesOf (word : UInt32) : List UInt8 :=
  [(word >>> 24).toUInt8, (word >>> 16).toUInt8, (word >>> 8).toUInt8, word.toUInt8]

/-- What a block of sixteen words makes of the words before it. -/
def compress (before : Words) (block : List UInt32) : Words :=
  let schedule := extend 48 block.toArray
  before.add <|
    (List.zip constants.toList schedule.toList).foldl (fun w e => round w e.1 e.2) before

/-- The message with a mark behind it, zeros, and its length in bits, in whole blocks. -/
def padded (message : List UInt8) : List UInt8 :=
  let zeros := (119 - message.length % 64) % 64
  let bits := 8 * message.length
  let length := [56, 48, 40, 32, 24, 16, 8, 0].map fun shift => (bits >>> shift).toUInt8
  message ++ 0x80 :: List.replicate zeros 0 ++ length

/-- The digest that so many blocks lead to. -/
def blocks : Nat → List UInt32 → Words → Words
  | 0, _, words => words
  | n + 1, rest, words => blocks n (rest.drop 16) (compress words (rest.take 16))

def digest (message : List UInt8) : List UInt8 :=
  let words := wordsOf (padded message)
  (blocks (words.length / 16) words .initial).toList.flatMap bytesOf

end AccessControl.Digest.Sha256
