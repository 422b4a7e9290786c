import NumberingPlan.Digest.Sha2

/-! The RIPEMD-160 digest. Two lines of rounds run beside each other over the same block, and the
five functions take turns in opposite orders. -/

namespace NumberingPlan.Digest

namespace Ripemd160

structure State where
  a : UInt32
  b : UInt32
  c : UInt32
  d : UInt32
  e : UInt32

def start : State := ⟨0x67452301, 0xefcdab89, 0x98badcfe, 0x10325476, 0xc3d2e1f0⟩

def State.toList (s : State) : List UInt32 := [s.a, s.b, s.c, s.d, s.e]

def mix (kind : Nat) (x y z : UInt32) : UInt32 :=
  match kind with
  | 0 => x ^^^ y ^^^ z
  | 1 => (x &&& y) ||| (~~~x &&& z)
  | 2 => (x ||| ~~~y) ^^^ z
  | 3 => (x &&& z) ||| (y &&& ~~~z)
  | _ => x ^^^ (y ||| ~~~z)

/-- Where the word of each place goes from one group of rounds to the next. -/
def shuffle (word : Nat) : Nat :=
  [7, 4, 13, 1, 10, 6, 15, 3, 12, 0, 9, 5, 2, 14, 11, 8].getD word 0

def shuffled : Nat → Nat → Nat
  | 0, word => word
  | group + 1, word => shuffle (shuffled group word)

/-- How far a group of rounds rotates with each word. -/
def rotations : List (List Nat) :=
  [
    [11, 14, 15, 12, 5, 8, 7, 9, 11, 13, 14, 15, 6, 7, 9, 8],
    [12, 13, 11, 15, 6, 9, 9, 7, 12, 15, 11, 13, 7, 8, 7, 7],
    [13, 15, 14, 11, 7, 7, 6, 8, 13, 14, 13, 12, 5, 5, 6, 9],
    [14, 11, 12, 14, 8, 6, 5, 5, 15, 12, 15, 14, 9, 9, 8, 6],
    [15, 12, 13, 13, 9, 5, 8, 6, 14, 11, 12, 11, 8, 6, 5, 5]
  ]

/-- The first thirty binary places of a root, with what stands before the point. -/
def rootConstant (degree n : Nat) : UInt32 :=
  UInt32.ofNat (floorRoot degree (n * Nat.pow 2 (degree * 30)))

def leftConstants : List UInt32 := 0 :: [2, 3, 5, 7].map (rootConstant 2)

def rightConstants : List UInt32 := [2, 3, 5, 7].map (rootConstant 3) ++ [0]

def round (block : List UInt32) (kind group word : Nat) (constant : UInt32) (s : State) : State :=
  let sum := s.a + mix kind s.b s.c s.d + block.getD word 0 + constant
  let turned := rotateLeft sum ((rotations.getD group []).getD word 0)
  ⟨s.e, turned + s.e, s.b, rotateLeft s.c 10, s.d⟩

def leftRound (block : List UInt32) (s : State) (index : Nat) : State :=
  let group := index / 16
  round block group group (shuffled group (index % 16)) (leftConstants.getD group 0) s

def rightRound (block : List UInt32) (s : State) (index : Nat) : State :=
  let group := index / 16
  let word := (9 * (index % 16) + 5) % 16
  round block (4 - group) group (shuffled group word) (rightConstants.getD group 0) s

def compress (s : State) (block : List UInt32) : State :=
  let left := (List.range 80).foldl (leftRound block) s
  let right := (List.range 80).foldl (rightRound block) s
  ⟨s.b + left.c + right.d, s.c + left.d + right.e, s.d + left.e + right.a,
    s.e + left.a + right.b, s.a + left.b + right.c⟩

end Ripemd160

def ripemd160 (message : List UInt8) : List UInt8 :=
  wordBytes .lowFirst
    ((blocks UInt32 .lowFirst message).foldl Ripemd160.compress Ripemd160.start).toList

end NumberingPlan.Digest
