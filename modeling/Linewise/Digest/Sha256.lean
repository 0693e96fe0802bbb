import Linewise.Text.Quoted

/-!
The SHA-256 digest of a list of bytes.
-/

namespace Linewise.Digest

/-- The working state: eight words. -/
structure Words where
  a : UInt32
  b : UInt32
  c : UInt32
  d : UInt32
  e : UInt32
  f : UInt32
  g : UInt32
  h : UInt32
deriving DecidableEq, Repr

namespace Words

/-- The first bits of the fractional parts of the square roots of the first eight primes. -/
def initial : Words :=
  ⟨0x6a09e667, 0xbb67ae85, 0x3c6ef372, 0xa54ff53a,
   0x510e527f, 0x9b05688c, 0x1f83d9ab, 0x5be0cd19⟩

def add (left right : Words) : Words :=
  ⟨left.a + right.a, left.b + right.b, left.c + right.c, left.d + right.d,
   left.e + right.e, left.f + right.f, left.g + right.g, left.h + right.h⟩

def toList (words : Words) : List UInt32 :=
  [words.a, words.b, words.c, words.d, words.e, words.f, words.g, words.h]

end Words

/-- The first bits of the fractional parts of the cube roots of the first 64 primes. -/
def roundConstants : List UInt32 :=
  [0x428a2f98, 0x71374491, 0xb5c0fbcf, 0xe9b5dba5, 0x3956c25b, 0x59f111f1,
   0x923f82a4, 0xab1c5ed5, 0xd807aa98, 0x12835b01, 0x243185be, 0x550c7dc3,
   0x72be5d74, 0x80deb1fe, 0x9bdc06a7, 0xc19bf174, 0xe49b69c1, 0xefbe4786,
   0x0fc19dc6, 0x240ca1cc, 0x2de92c6f, 0x4a7484aa, 0x5cb0a9dc, 0x76f988da,
   0x983e5152, 0xa831c66d, 0xb00327c8, 0xbf597fc7, 0xc6e00bf3, 0xd5a79147,
   0x06ca6351, 0x14292967, 0x27b70a85, 0x2e1b2138, 0x4d2c6dfc, 0x53380d13,
   0x650a7354, 0x766a0abb, 0x81c2c92e, 0x92722c85, 0xa2bfe8a1, 0xa81a664b,
   0xc24b8b70, 0xc76c51a3, 0xd192e819, 0xd6990624, 0xf40e3585, 0x106aa070,
   0x19a4c116, 0x1e376c08, 0x2748774c, 0x34b0bcb5, 0x391c0cb3, 0x4ed8aa4a,
   0x5b9cca4f, 0x682e6ff3, 0x748f82ee, 0x78a5636f, 0x84c87814, 0x8cc70208,
   0x90befffa, 0xa4506ceb, 0xbef9a3f7, 0xc67178f2]

def rotate (word : UInt32) (places : UInt32) : UInt32 :=
  (word >>> places) ||| (word <<< (32 - places))

/-! ## Message blocks -/

private def lengthBytes (number : Nat) : List UInt8 :=
  (List.range 8).map fun index => UInt8.ofNat (number / Nat.pow 256 (7 - index))

/-- A mark, zeros, and the length in bits, which together fill up the last block. -/
def padded (message : List UInt8) : List UInt8 :=
  let zeros := (119 - message.length % 64) % 64
  message ++ 0x80 :: List.replicate zeros 0 ++ lengthBytes (8 * message.length)

def wordsOf : List UInt8 → List UInt32
  | first :: second :: third :: fourth :: rest =>
      ((first.toUInt32 <<< 24) ||| (second.toUInt32 <<< 16) ||| (third.toUInt32 <<< 8)
        ||| fourth.toUInt32) :: wordsOf rest
  | _ => []

private def blocksOf : Nat → List UInt32 → List (List UInt32)
  | 0, _ => []
  | _, [] => []
  | count + 1, words => words.take 16 :: blocksOf count (words.drop 16)

private def extend : Nat → List UInt32 → List UInt32
  | 0, reversed => reversed
  | count + 1, reversed =>
      let word (back : Nat) : UInt32 := reversed.getD (back - 1) 0
      let early := word 15
      let late := word 2
      let mixedEarly := rotate early 7 ^^^ rotate early 18 ^^^ (early >>> 3)
      let mixedLate := rotate late 17 ^^^ rotate late 19 ^^^ (late >>> 10)
      extend count ((word 16 + mixedEarly + word 7 + mixedLate) :: reversed)

def schedule (block : List UInt32) : List UInt32 := (extend 48 block.reverse).reverse

/-! ## Compression -/

def round (state : Words) (constant word : UInt32) : Words :=
  let mixedE := rotate state.e 6 ^^^ rotate state.e 11 ^^^ rotate state.e 25
  let choice := (state.e &&& state.f) ^^^ ((~~~ state.e) &&& state.g)
  let first := state.h + mixedE + choice + constant + word
  let mixedA := rotate state.a 2 ^^^ rotate state.a 13 ^^^ rotate state.a 22
  let majority := (state.a &&& state.b) ^^^ (state.a &&& state.c) ^^^ (state.b &&& state.c)
  ⟨first + mixedA + majority, state.a, state.b, state.c, state.d + first, state.e, state.f,
   state.g⟩

def compress (state : Words) (block : List UInt32) : Words :=
  state.add <| (roundConstants.zip (schedule block)).foldl
    (fun state pair => round state pair.1 pair.2) state

def sha256 (message : List UInt8) : Text :=
  let bytes := padded message
  let blocks := blocksOf (bytes.length / 64) (wordsOf bytes)
  (blocks.foldl compress .initial).toList.flatMap fun word => Text.hex 8 word.toNat

end Linewise.Digest
