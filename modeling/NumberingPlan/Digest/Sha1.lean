import NumberingPlan.Digest.Block

/-! The SHA-1 digest. -/

namespace NumberingPlan.Digest

namespace Sha1

structure State where
  a : UInt32
  b : UInt32
  c : UInt32
  d : UInt32
  e : UInt32

def start : State := ⟨0x67452301, 0xefcdab89, 0x98badcfe, 0x10325476, 0xc3d2e1f0⟩

def State.toList (s : State) : List UInt32 := [s.a, s.b, s.c, s.d, s.e]

def State.add (s t : State) : State :=
  ⟨s.a + t.a, s.b + t.b, s.c + t.c, s.d + t.d, s.e + t.e⟩

/-- Puts `count` more words in front of the schedule, which is kept latest first. -/
def extend : Nat → List UInt32 → List UInt32
  | 0, words => words
  | count + 1, words =>
    let word (back : Nat) : UInt32 := words.getD (back - 1) 0
    extend count (rotateLeft (word 3 ^^^ word 8 ^^^ word 14 ^^^ word 16) 1 :: words)

/-- The function of a round and its constant; there are four kinds of rounds. -/
def mix (index : Nat) (s : State) : UInt32 × UInt32 :=
  if index < 20 then ((s.b &&& s.c) ||| (~~~s.b &&& s.d), 0x5a827999)
  else if index < 40 then (s.b ^^^ s.c ^^^ s.d, 0x6ed9eba1)
  else if index < 60 then ((s.b &&& s.c) ||| (s.b &&& s.d) ||| (s.c &&& s.d), 0x8f1bbcdc)
  else (s.b ^^^ s.c ^^^ s.d, 0xca62c1d6)

def round (s : State) (input : UInt32 × Nat) : State :=
  let (mixed, constant) := mix input.2 s
  ⟨rotateLeft s.a 5 + mixed + s.e + constant + input.1, s.a, rotateLeft s.b 30, s.c, s.d⟩

def compress (s : State) (block : List UInt32) : State :=
  s.add ((extend 64 block.reverse).reverse.zipIdx.foldl round s)

end Sha1

def sha1 (message : List UInt8) : List UInt8 :=
  wordBytes .highFirst ((blocks UInt32 .highFirst message).foldl Sha1.compress Sha1.start).toList

end NumberingPlan.Digest
