import NumberingPlan.Digest.Sha2

/-! The SM3 digest. -/

namespace NumberingPlan.Digest

namespace Sm3

abbrev State := Sha2.State UInt32

def start : State :=
  ⟨0x7380166f, 0x4914b2b9, 0x172442d7, 0xda8a0600, 0xa96f30bc, 0x163138aa, 0xe38dee4d, 0xb0fb0e4e⟩

def mixState (x : UInt32) : UInt32 := x ^^^ rotateLeft x 9 ^^^ rotateLeft x 17

def mixSchedule (x : UInt32) : UInt32 := x ^^^ rotateLeft x 15 ^^^ rotateLeft x 23

/-- Puts `count` more words in front of the schedule, which is kept latest first. -/
def extend : Nat → List UInt32 → List UInt32
  | 0, words => words
  | count + 1, words =>
    let word (back : Nat) : UInt32 := words.getD (back - 1) 0
    let next := mixSchedule (word 16 ^^^ word 9 ^^^ rotateLeft (word 3) 15)
      ^^^ rotateLeft (word 13) 7 ^^^ word 6
    extend count (next :: words)

def round (schedule : List UInt32) (s : State) (index : Nat) : State :=
  let early := decide (index < 16)
  let constant : UInt32 := if early then 0x79cc4519 else 0x7a879d8a
  let top := rotateLeft s.a 12
  let one := rotateLeft (top + s.e + rotateLeft constant (index % 32)) 7
  let word := schedule.getD index 0
  let upper := if early then s.a ^^^ s.b ^^^ s.c
    else (s.a &&& s.b) ||| (s.a &&& s.c) ||| (s.b &&& s.c)
  let lower := if early then s.e ^^^ s.f ^^^ s.g else (s.e &&& s.f) ||| (~~~s.e &&& s.g)
  let two := upper + s.d + (one ^^^ top) + (word ^^^ schedule.getD (index + 4) 0)
  let three := lower + s.h + one + word
  ⟨two, s.a, rotateLeft s.b 9, s.c, mixState three, s.e, rotateLeft s.f 19, s.g⟩

def compress (s : State) (block : List UInt32) : State :=
  let schedule := (extend 52 block.reverse).reverse
  let mixed := ((List.range 64).foldl (round schedule) s).toList
  .ofFn (fun index => s.toList.getD index 0 ^^^ mixed.getD index 0)

end Sm3

def sm3 (message : List UInt8) : List UInt8 :=
  wordBytes .highFirst ((blocks UInt32 .highFirst message).foldl Sm3.compress Sm3.start).toList

end NumberingPlan.Digest
