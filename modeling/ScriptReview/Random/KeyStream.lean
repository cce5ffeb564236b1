import ScriptReview.Random.WordSource

/-!
# A stream of random words

Random words come from a stream cipher with twelve rounds. The key of the cipher is stretched from a
seed of 64 bits. The words of the stream are numbered; sixteen words come from one block.

Main definitions:

* `KeyStream.seedKey` stretches a seed into a key.
* `KeyStream.block` computes sixteen words.
* `Generator` is a key with the number of words drawn so far. It is a source of words.
-/

namespace ScriptReview
namespace KeyStream

/-! ## Keys -/

/-- The low half of a word of 64 bits. -/
def low (s : UInt64) : UInt32 :=
  s.toUInt32

/-- A word rotated to the left. -/
def rotateLeft (x : UInt32) (n : UInt32) : UInt32 :=
  (x <<< n) ||| (x >>> (32 - n))

/-- A word rotated to the right, by less than its width. -/
def rotateRight (x : UInt32) (n : UInt32) : UInt32 :=
  if n = 0 then x else (x >>> n) ||| (x <<< (32 - n))

/-- The next state of the generator that stretches seeds. -/
def seedStep (s : UInt64) : UInt64 :=
  s * 6364136223846793005 + 11634580027462260723

/-- The word that a state of the generator gives. -/
def seedWord (s : UInt64) : UInt32 :=
  rotateRight (low (((s >>> 18) ^^^ s) >>> 27)) (low (s >>> 59))

/-- The words of a number of states after a state. -/
def seedWords : Nat → UInt64 → List UInt32
  | 0, _ => []
  | n + 1, s => seedWord (seedStep s) :: seedWords n (seedStep s)

/-- The eight words of the key that a seed is stretched into. -/
def seedKey (seed : UInt64) : List UInt32 :=
  seedWords 8 seed

/-! ## Blocks -/

/-- A row of four words. -/
structure Row where
  a : UInt32
  b : UInt32
  c : UInt32
  d : UInt32
  deriving DecidableEq, Repr, Inhabited

namespace Row

/-- The sums of two rows. -/
def add (x y : Row) : Row := ⟨x.a + y.a, x.b + y.b, x.c + y.c, x.d + y.d⟩

/-- The differences in bits of two rows, rotated to the left. -/
def xorRotate (n : UInt32) (x y : Row) : Row :=
  ⟨rotateLeft (x.a ^^^ y.a) n, rotateLeft (x.b ^^^ y.b) n, rotateLeft (x.c ^^^ y.c) n,
    rotateLeft (x.d ^^^ y.d) n⟩

/-- The words moved to the left by one place. -/
def shift1 (x : Row) : Row := ⟨x.b, x.c, x.d, x.a⟩

/-- The words moved to the left by two places. -/
def shift2 (x : Row) : Row := ⟨x.c, x.d, x.a, x.b⟩

/-- The words moved to the left by three places. -/
def shift3 (x : Row) : Row := ⟨x.d, x.a, x.b, x.c⟩

/-- The words of a row in order. -/
def toList (x : Row) : List UInt32 := [x.a, x.b, x.c, x.d]

end Row

/-- The state of the cipher: constants, key, and counter. -/
structure Grid where
  r0 : Row
  r1 : Row
  r2 : Row
  r3 : Row
  deriving DecidableEq, Repr, Inhabited

namespace Grid

/-- One round over the four columns. -/
def round (g : Grid) : Grid :=
  let a := g.r0.add g.r1
  let d := Row.xorRotate 16 g.r3 a
  let c := g.r2.add d
  let b := Row.xorRotate 12 g.r1 c
  let a := a.add b
  let d := Row.xorRotate 8 d a
  let c := c.add d
  let b := Row.xorRotate 7 b c
  ⟨a, b, c, d⟩

/-- One round over the columns and one over the diagonals. -/
def doubleRound (g : Grid) : Grid :=
  let g := g.round
  let h := round ⟨g.r0, g.r1.shift1, g.r2.shift2, g.r3.shift3⟩
  ⟨h.r0, h.r1.shift3, h.r2.shift2, h.r3.shift1⟩

/-- The sums of two states. -/
def add (g h : Grid) : Grid :=
  ⟨g.r0.add h.r0, g.r1.add h.r1, g.r2.add h.r2, g.r3.add h.r3⟩

/-- The words of a state in order. -/
def toList (g : Grid) : List UInt32 :=
  g.r0.toList ++ g.r1.toList ++ g.r2.toList ++ g.r3.toList

end Grid

/-- The state for a key and the number of a block. -/
def initial (key : List UInt32) (number : Nat) : Grid :=
  let k := fun i => key[i]?.getD 0
  ⟨⟨0x61707865, 0x3320646e, 0x79622d32, 0x6b206574⟩, ⟨k 0, k 1, k 2, k 3⟩, ⟨k 4, k 5, k 6, k 7⟩,
    ⟨UInt32.ofNat number, UInt32.ofNat (number / powerOfTwo 32), 0, 0⟩⟩

/-- The sixteen words of a block. -/
def block (key : List UInt32) (number : Nat) : List UInt32 :=
  let start := initial key number
  (start.add ((List.range 6).foldl (fun g _ => g.doubleRound) start)).toList

/-- The word of the stream with a number. -/
def word (key : List UInt32) (n : Nat) : UInt32 :=
  (block key (n / 16))[n % 16]?.getD 0

end KeyStream

/-- A generator of random words: a key and the number of words drawn so far. -/
structure Generator where
  key : List UInt32
  drawn : Nat
  deriving DecidableEq, Repr, Inhabited

namespace Generator

/-- The generator for a seed. -/
def ofSeed (seed : UInt64) : Generator :=
  ⟨KeyStream.seedKey seed, 0⟩

/-- The next word of 32 bits. -/
def next32 (g : Generator) : UInt32 × Generator :=
  (KeyStream.word g.key g.drawn, { g with drawn := g.drawn + 1 })

/-- The next word of 64 bits, whose lower half comes first. -/
def next64 (g : Generator) : UInt64 × Generator :=
  let (lower, g) := g.next32
  let (upper, g) := g.next32
  (upper.toUInt64 <<< 32 ||| lower.toUInt64, g)

instance : WordSource Generator := ⟨next32, next64⟩

end Generator
end ScriptReview
