import SqlLens.Text.Basic

/-!
The SHA-256 digest of a text.

The bytes of the text are followed by a set bit, by zeros and by the number of bits, so that blocks of 64 bytes come out
even; each block is mixed into eight words.
-/

namespace SqlLens.Digest

def turn (word : UInt32) (count : UInt32) : UInt32 := (word >>> count) ||| (word <<< (32 - count))

/-- The words that make the rounds differ: the first bits of the fractions of the cube roots of the first 64 primes. -/
def roundWords : List UInt32 :=
  [0x428a2f98, 0x71374491, 0xb5c0fbcf, 0xe9b5dba5, 0x3956c25b, 0x59f111f1, 0x923f82a4, 0xab1c5ed5,
    0xd807aa98, 0x12835b01, 0x243185be, 0x550c7dc3, 0x72be5d74, 0x80deb1fe, 0x9bdc06a7, 0xc19bf174,
    0xe49b69c1, 0xefbe4786, 0x0fc19dc6, 0x240ca1cc, 0x2de92c6f, 0x4a7484aa, 0x5cb0a9dc, 0x76f988da,
    0x983e5152, 0xa831c66d, 0xb00327c8, 0xbf597fc7, 0xc6e00bf3, 0xd5a79147, 0x06ca6351, 0x14292967,
    0x27b70a85, 0x2e1b2138, 0x4d2c6dfc, 0x53380d13, 0x650a7354, 0x766a0abb, 0x81c2c92e, 0x92722c85,
    0xa2bfe8a1, 0xa81a664b, 0xc24b8b70, 0xc76c51a3, 0xd192e819, 0xd6990624, 0xf40e3585, 0x106aa070,
    0x19a4c116, 0x1e376c08, 0x2748774c, 0x34b0bcb5, 0x391c0cb3, 0x4ed8aa4a, 0x5b9cca4f, 0x682e6ff3,
    0x748f82ee, 0x78a5636f, 0x84c87814, 0x8cc70208, 0x90befffa, 0xa4506ceb, 0xbef9a3f7, 0xc67178f2]

structure Words where
  a : UInt32
  b : UInt32
  c : UInt32
  d : UInt32
  e : UInt32
  f : UInt32
  g : UInt32
  h : UInt32
deriving DecidableEq

/-- The words before any block: the first bits of the fractions of the square roots of the first eight primes. -/
def Words.initial : Words :=
  ⟨0x6a09e667, 0xbb67ae85, 0x3c6ef372, 0xa54ff53a, 0x510e527f, 0x9b05688c, 0x1f83d9ab, 0x5be0cd19⟩

def Words.toList (words : Words) : List UInt32 :=
  [words.a, words.b, words.c, words.d, words.e, words.f, words.g, words.h]

def Words.add (x y : Words) : Words :=
  ⟨x.a + y.a, x.b + y.b, x.c + y.c, x.d + y.d, x.e + y.e, x.f + y.f, x.g + y.g, x.h + y.h⟩

def Words.round (w : Words) (input : UInt32) : Words :=
  let mixed := turn w.e 6 ^^^ turn w.e 11 ^^^ turn w.e 25
  let choice := (w.e &&& w.f) ^^^ (w.e.complement &&& w.g)
  let first := w.h + mixed + choice + input
  let stirred := turn w.a 2 ^^^ turn w.a 13 ^^^ turn w.a 22
  let majority := (w.a &&& w.b) ^^^ (w.a &&& w.c) ^^^ (w.b &&& w.c)
  ⟨first + (stirred + majority), w.a, w.b, w.c, w.d + first, w.e, w.f, w.g⟩

/-- Makes further words out of those of a block; the latest word comes first. -/
def extend : Nat → List UInt32 → List UInt32
  | 0, words => words
  | count + 1, words =>
    let word (back : Nat) : UInt32 := words[back - 1]?.getD 0
    let early := turn (word 15) 7 ^^^ turn (word 15) 18 ^^^ (word 15 >>> 3)
    let late := turn (word 2) 17 ^^^ turn (word 2) 19 ^^^ (word 2 >>> 10)
    extend count ((word 16 + early + word 7 + late) :: words)

def Words.mix (words : Words) (block : List UInt32) : Words :=
  let inputs := (extend 48 block.reverse).reverse
  let rounds := (roundWords.zip inputs).map fun (fixed, input) => fixed + input
  words.add (rounds.foldl Words.round words)

def wordsOf : List UInt8 → List UInt32
  | a :: b :: c :: d :: rest =>
    ((a.toUInt32 <<< 24) ||| (b.toUInt32 <<< 16) ||| (c.toUInt32 <<< 8) ||| d.toUInt32) :: wordsOf rest
  | _ => []

def bytesOf : Nat → Nat → List UInt8
  | 0, _ => []
  | count + 1, value => bytesOf count (value / 256) ++ [UInt8.ofNat value]

def padded (bytes : List UInt8) : List UInt8 :=
  let zeros := (119 - bytes.length % 64) % 64
  bytes ++ 0x80 :: List.replicate zeros 0 ++ bytesOf 8 (bytes.length * 8)

def mixAll : Nat → Words → List UInt32 → Words
  | 0, words, _ => words
  | blocks + 1, words, input => mixAll blocks (words.mix (input.take 16)) (input.drop 16)

def sha256 (bytes : List UInt8) : Words :=
  let input := wordsOf (padded bytes)
  mixAll (input.length / 16) .initial input

def fingerprint (text : String) : String :=
  String.join ((sha256 text.toUTF8.toList).toList.map fun word => Text.padLeft '0' 8 (Text.hex word.toNat))

end SqlLens.Digest
