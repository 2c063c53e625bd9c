import Mathlib.Algebra.Order.Ring.Nat
import Mathlib.Tactic.Common

/-! The digest SHA-256 over lists of bytes; a word is a number below `2 ^ 32`. -/

namespace Sha256

def word (value : Nat) : Nat := value % 2 ^ 32

def rotateRight (count value : Nat) : Nat := value >>> count ||| word (value <<< (32 - count))

def complement (value : Nat) : Nat := value ^^^ (2 ^ 32 - 1)

/-- The eight working words. -/
structure State where
  (a b c d e f g h : Nat)

def State.add (first second : State) : State :=
  ⟨word (first.a + second.a), word (first.b + second.b), word (first.c + second.c),
    word (first.d + second.d), word (first.e + second.e), word (first.f + second.f),
    word (first.g + second.g), word (first.h + second.h)⟩

def State.words (state : State) : List Nat :=
  [state.a, state.b, state.c, state.d, state.e, state.f, state.g, state.h]

def State.start : State :=
  ⟨0x6a09e667, 0xbb67ae85, 0x3c6ef372, 0xa54ff53a, 0x510e527f, 0x9b05688c, 0x1f83d9ab, 0x5be0cd19⟩

def constants : List Nat :=
  [0x428a2f98, 0x71374491, 0xb5c0fbcf, 0xe9b5dba5, 0x3956c25b, 0x59f111f1, 0x923f82a4, 0xab1c5ed5,
    0xd807aa98, 0x12835b01, 0x243185be, 0x550c7dc3, 0x72be5d74, 0x80deb1fe, 0x9bdc06a7, 0xc19bf174,
    0xe49b69c1, 0xefbe4786, 0x0fc19dc6, 0x240ca1cc, 0x2de92c6f, 0x4a7484aa, 0x5cb0a9dc, 0x76f988da,
    0x983e5152, 0xa831c66d, 0xb00327c8, 0xbf597fc7, 0xc6e00bf3, 0xd5a79147, 0x06ca6351, 0x14292967,
    0x27b70a85, 0x2e1b2138, 0x4d2c6dfc, 0x53380d13, 0x650a7354, 0x766a0abb, 0x81c2c92e, 0x92722c85,
    0xa2bfe8a1, 0xa81a664b, 0xc24b8b70, 0xc76c51a3, 0xd192e819, 0xd6990624, 0xf40e3585, 0x106aa070,
    0x19a4c116, 0x1e376c08, 0x2748774c, 0x34b0bcb5, 0x391c0cb3, 0x4ed8aa4a, 0x5b9cca4f, 0x682e6ff3,
    0x748f82ee, 0x78a5636f, 0x84c87814, 0x8cc70208, 0x90befffa, 0xa4506ceb, 0xbef9a3f7, 0xc67178f2]

def State.round (state : State) (constant value : Nat) : State :=
  let sum := rotateRight 6 state.e ^^^ rotateRight 11 state.e ^^^ rotateRight 25 state.e
  let choice := (state.e &&& state.f) ^^^ (complement state.e &&& state.g)
  let first := state.h + sum + choice + constant + value
  let sum' := rotateRight 2 state.a ^^^ rotateRight 13 state.a ^^^ rotateRight 22 state.a
  let majority := (state.a &&& state.b) ^^^ (state.a &&& state.c) ^^^ (state.b &&& state.c)
  ⟨word (first + sum' + majority), state.a, state.b, state.c, word (state.d + first), state.e,
    state.f, state.g⟩

/-- The last sixteen words give the next one; the newest word comes first. -/
def nextWord (newest : List Nat) : Nat :=
  let near := newest.getD 1 0
  let far := newest.getD 14 0
  word (newest.getD 15 0 + newest.getD 6 0 +
    (rotateRight 7 far ^^^ rotateRight 18 far ^^^ far >>> 3) +
    (rotateRight 17 near ^^^ rotateRight 19 near ^^^ near >>> 10))

/-- The counter bounds the words that are added. -/
def extend : Nat → List Nat → List Nat
  | 0, newest => newest
  | count + 1, newest => extend count (nextWord newest :: newest)

def schedule (block : List Nat) : List Nat := (extend 48 block.reverse).reverse

def rounds : State → List (Nat × Nat) → State
  | state, [] => state
  | state, (constant, value) :: rest => rounds (state.round constant value) rest

def compress (state : State) (block : List Nat) : State :=
  state.add (rounds state (constants.zip (schedule block)))

/-- The text is followed by a one bit, by zeros and by its length in bits. -/
def padded (bytes : List Nat) : List Nat :=
  let length := bytes.length
  let zeros := (119 - length % 64) % 64
  bytes ++ 128 :: List.replicate zeros 0 ++
    (List.range 8).map fun index => (8 * length) >>> (8 * (7 - index)) % 256

def wordsOf : List Nat → List Nat
  | a :: b :: c :: d :: rest => (a <<< 24 ||| b <<< 16 ||| c <<< 8 ||| d) :: wordsOf rest
  | _ => []

/-- The counter bounds the blocks. -/
def blocks : Nat → State → List Nat → State
  | 0, state, _ => state
  | count + 1, state, words => blocks count (compress state (words.take 16)) (words.drop 16)

def bytesOf (value : Nat) : List UInt8 :=
  [UInt8.ofNat (value >>> 24), UInt8.ofNat (value >>> 16), UInt8.ofNat (value >>> 8),
    UInt8.ofNat value]

def digest (bytes : List UInt8) : List UInt8 :=
  let words := wordsOf (padded (bytes.map UInt8.toNat))
  (blocks (words.length / 16) .start words).words.flatMap bytesOf

theorem length_digest (bytes : List UInt8) : (digest bytes).length = 32 := rfl

end Sha256
