import NumberingPlan.Digest.Sha2

/-! The BLAKE2 digests of full length and without a key. They start from the constants of the
SHA-2 family. -/

namespace NumberingPlan.Digest

namespace Blake2

/-- How far the four rotations of a mixing step go, and how many rounds there are. -/
structure Shape where
  first : Nat
  second : Nat
  third : Nat
  fourth : Nat
  rounds : Nat

def shape32 : Shape := ⟨16, 12, 8, 7, 10⟩

def shape64 : Shape := ⟨32, 24, 16, 63, 12⟩

/-- The order in which a round takes the words of a block; ten orders take turns. -/
def orders : List (List Nat) :=
  [
    [0, 1, 2, 3, 4, 5, 6, 7, 8, 9, 10, 11, 12, 13, 14, 15],
    [14, 10, 4, 8, 9, 15, 13, 6, 1, 12, 0, 2, 11, 7, 5, 3],
    [11, 8, 12, 0, 5, 2, 15, 13, 10, 14, 3, 6, 7, 1, 9, 4],
    [7, 9, 3, 1, 13, 12, 11, 14, 2, 6, 5, 10, 4, 0, 15, 8],
    [9, 0, 5, 7, 2, 4, 10, 15, 14, 1, 11, 12, 6, 8, 3, 13],
    [2, 12, 6, 10, 0, 11, 8, 3, 4, 13, 7, 5, 15, 14, 1, 9],
    [12, 5, 1, 15, 14, 13, 4, 10, 0, 7, 6, 3, 9, 2, 8, 11],
    [13, 11, 7, 14, 12, 1, 3, 9, 5, 0, 15, 4, 8, 6, 2, 10],
    [6, 15, 14, 9, 11, 3, 0, 8, 12, 2, 13, 7, 1, 4, 10, 5],
    [10, 2, 8, 4, 7, 6, 1, 5, 15, 11, 9, 14, 3, 12, 13, 0]
  ]

/-- The places that the steps of a round mix: the columns of a square, then its diagonals. -/
def places : List (Nat × Nat × Nat × Nat) :=
  [
    (0, 4, 8, 12), (1, 5, 9, 13), (2, 6, 10, 14), (3, 7, 11, 15),
    (0, 5, 10, 15), (1, 6, 11, 12), (2, 7, 8, 13), (3, 4, 9, 14)
  ]

/-- Mixes four words of the square with two of the block. -/
@[specialize] def mix {α : Type} [Word α] (shape : Shape) (square : List α)
    (place : Nat × Nat × Nat × Nat) (x y : α) : List α :=
  let (i, j, k, l) := place
  let word (index : Nat) : α := square.getD index (Word.ofNat 0)
  let a := word i + word j + x
  let d := rotateRight (word l ^^^ a) shape.first
  let c := word k + d
  let b := rotateRight (word j ^^^ c) shape.second
  let a := a + b + y
  let d := rotateRight (d ^^^ a) shape.third
  let c := c + d
  let b := rotateRight (b ^^^ c) shape.fourth
  (((square.set i a).set j b).set k c).set l d

@[specialize] def round {α : Type} [Word α] (shape : Shape) (block : List α) (square : List α)
    (index : Nat) : List α :=
  let order := orders.getD (index % 10) []
  let word (step : Nat) : α := block.getD (order.getD step 0) (Word.ofNat 0)
  places.zipIdx.foldl (fun square (place, step) =>
    mix shape square place (word (2 * step)) (word (2 * step + 1))) square

/-- Takes in a block; `count` is the number of bytes up to its end. -/
@[specialize] def compress {α : Type} [Word α] (shape : Shape) (start state : List α)
    (block : List α) (count : Nat) (last : Bool) : List α :=
  let marks : List α := (List.range 8).map (fun index =>
    if index = 4 then Word.ofNat count
    else if index = 5 then Word.ofNat (count / Nat.pow 2 (Word.bits α))
    else if index = 6 && last then ~~~Word.ofNat 0
    else Word.ofNat 0)
  let square := state ++ List.zipWith (· ^^^ ·) start marks
  let mixed := (List.range shape.rounds).foldl (round shape block) square
  List.zipWith (· ^^^ ·) state (List.zipWith (· ^^^ ·) (mixed.take 8) (mixed.drop 8))

/-- The bytes of a last block, which is padded with zeros. -/
def filled (size : Nat) (block : List UInt8) : List UInt8 :=
  block ++ List.replicate (size - block.length) 0

@[specialize] def absorb {α : Type} [Word α] (shape : Shape) (start : List α) :
    Nat → List α → List (List UInt8) → List α
  | _, state, [] => state
  | count, state, block :: rest =>
    let width := Word.bits α / 8
    let count := count + block.length
    let words := (chunks width (filled (16 * width) block)).map
      (fun bytes => Word.ofNat (ByteOrder.lowFirst.value bytes))
    absorb shape start count (compress shape start state words count rest.isEmpty) rest

/-- The digest has as many bytes as the state. An empty message is one block without bytes. -/
@[specialize] def run {α : Type} [Word α] (shape : Shape) (start : List α)
    (message : List UInt8) : List UInt8 :=
  let width := Word.bits α / 8
  let state := match start with
    | [] => []
    | first :: rest => (first ^^^ Word.ofNat (0x01010000 + 8 * width)) :: rest
  let blocks := if message.isEmpty then [[]] else chunks (16 * width) message
  wordBytes .lowFirst (absorb shape start 0 state blocks)

end Blake2

def blake2s : List UInt8 → List UInt8 := Blake2.run Blake2.shape32 Sha2.start256.toList

def blake2b : List UInt8 → List UInt8 := Blake2.run Blake2.shape64 Sha2.start512.toList

end NumberingPlan.Digest
