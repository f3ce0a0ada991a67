import DatasetService.Text.Hex

set_option autoImplicit false

/- The digest SHA-256. -/
namespace DatasetService.Digest

open Text (Bytes)

/-- The first 32 bits of the fractional parts of the cube roots of the first 64 primes. -/
def roundConstants : List UInt32 :=
  [0x428a2f98, 0x71374491, 0xb5c0fbcf, 0xe9b5dba5, 0x3956c25b, 0x59f111f1, 0x923f82a4,
   0xab1c5ed5, 0xd807aa98, 0x12835b01, 0x243185be, 0x550c7dc3, 0x72be5d74, 0x80deb1fe,
   0x9bdc06a7, 0xc19bf174, 0xe49b69c1, 0xefbe4786, 0x0fc19dc6, 0x240ca1cc, 0x2de92c6f,
   0x4a7484aa, 0x5cb0a9dc, 0x76f988da, 0x983e5152, 0xa831c66d, 0xb00327c8, 0xbf597fc7,
   0xc6e00bf3, 0xd5a79147, 0x06ca6351, 0x14292967, 0x27b70a85, 0x2e1b2138, 0x4d2c6dfc,
   0x53380d13, 0x650a7354, 0x766a0abb, 0x81c2c92e, 0x92722c85, 0xa2bfe8a1, 0xa81a664b,
   0xc24b8b70, 0xc76c51a3, 0xd192e819, 0xd6990624, 0xf40e3585, 0x106aa070, 0x19a4c116,
   0x1e376c08, 0x2748774c, 0x34b0bcb5, 0x391c0cb3, 0x4ed8aa4a, 0x5b9cca4f, 0x682e6ff3,
   0x748f82ee, 0x78a5636f, 0x84c87814, 0x8cc70208, 0x90befffa, 0xa4506ceb, 0xbef9a3f7,
   0xc67178f2]

structure Chain where
  a : UInt32
  b : UInt32
  c : UInt32
  d : UInt32
  e : UInt32
  f : UInt32
  g : UInt32
  h : UInt32

/-- The first 32 bits of the fractional parts of the square roots of the first 8 primes. -/
def Chain.initial : Chain :=
  { a := 0x6a09e667, b := 0xbb67ae85, c := 0x3c6ef372, d := 0xa54ff53a
    e := 0x510e527f, f := 0x9b05688c, g := 0x1f83d9ab, h := 0x5be0cd19 }

def rotateRight (word amount : UInt32) : UInt32 :=
  (word >>> amount) ||| (word <<< (32 - amount))

def bytesOfWord (word : UInt32) : Bytes :=
  [(word >>> 24).toUInt8, (word >>> 16).toUInt8, (word >>> 8).toUInt8, word.toUInt8]

def wordOfBytes (a b c d : UInt8) : UInt32 :=
  (a.toUInt32 <<< 24) ||| (b.toUInt32 <<< 16) ||| (c.toUInt32 <<< 8) ||| d.toUInt32

/-- The words of the bytes, most significant byte first; an incomplete word is dropped. -/
def wordsOf : Bytes → List UInt32
  | a :: b :: c :: d :: rest => wordOfBytes a b c d :: wordsOf rest
  | _ => []

/-- The message with a one bit, zeros up to 8 bytes below a multiple of 64, and its length
in bits. -/
def pad (message : Bytes) : Bytes :=
  let length := message.length
  let zeros := (119 - length % 64) % 64
  let bits := length * 8
  message ++ 0x80 :: List.replicate zeros 0 ++
    [56, 48, 40, 32, 24, 16, 8, 0].map fun shift => UInt8.ofNat (bits / Nat.pow 2 shift % 256)

/-- The next word of the schedule, from the sixteen before it, latest first. -/
def nextWord (latest : List UInt32) : UInt32 :=
  let word (back : Nat) := (latest[back - 1]?).getD 0
  let x := word 15
  let y := word 2
  let s0 := rotateRight x 7 ^^^ rotateRight x 18 ^^^ (x >>> 3)
  let s1 := rotateRight y 17 ^^^ rotateRight y 19 ^^^ (y >>> 10)
  word 16 + s0 + word 7 + s1

/-- Extend a schedule, kept latest first, by a number of words. -/
def extend : Nat → List UInt32 → List UInt32
  | 0, latest => latest
  | count + 1, latest => extend count (nextWord latest :: latest)

def round (chain : Chain) (constant word : UInt32) : Chain :=
  let s1 := rotateRight chain.e 6 ^^^ rotateRight chain.e 11 ^^^ rotateRight chain.e 25
  let choice := (chain.e &&& chain.f) ^^^ (~~~chain.e &&& chain.g)
  let t1 := chain.h + s1 + choice + constant + word
  let s0 := rotateRight chain.a 2 ^^^ rotateRight chain.a 13 ^^^ rotateRight chain.a 22
  let majority := (chain.a &&& chain.b) ^^^ (chain.a &&& chain.c) ^^^ (chain.b &&& chain.c)
  { a := t1 + (s0 + majority), b := chain.a, c := chain.b, d := chain.c
    e := chain.d + t1, f := chain.e, g := chain.f, h := chain.g }

def compress (chain : Chain) (block : List UInt32) : Chain :=
  let schedule := (extend 48 block.reverse).reverse
  let mixed :=
    (roundConstants.zip schedule).foldl (fun chain pair => round chain pair.1 pair.2) chain
  { a := chain.a + mixed.a, b := chain.b + mixed.b, c := chain.c + mixed.c, d := chain.d + mixed.d
    e := chain.e + mixed.e, f := chain.f + mixed.f, g := chain.g + mixed.g, h := chain.h + mixed.h }

/-- Compress the words in blocks of sixteen; the first argument bounds their number. -/
def compressAll : Nat → Chain → List UInt32 → Chain
  | 0, chain, _ => chain
  | _, chain, [] => chain
  | fuel + 1, chain, words => compressAll fuel (compress chain (words.take 16)) (words.drop 16)

def sha256 (message : Bytes) : Bytes :=
  let words := wordsOf (pad message)
  let chain := compressAll words.length Chain.initial words
  [chain.a, chain.b, chain.c, chain.d, chain.e, chain.f, chain.g, chain.h].flatMap bytesOfWord

end DatasetService.Digest
