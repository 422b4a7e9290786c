import NumberingPlan.Digest.Block

/-! The SHA-3 digests. A state of twenty-five words takes in a part of the message at a time, and
is mixed after each. -/

namespace NumberingPlan.Digest

namespace Sha3

/-- Words by column within row; there are five of both. -/
abbrev State := List UInt64

def State.word (s : State) (column row : Nat) : UInt64 := s.getD (column % 5 + 5 * (row % 5)) 0

def State.ofFn (word : Nat → Nat → UInt64) : State :=
  (List.range 25).map (fun place => word (place % 5) (place / 5))

def start : State := .ofFn (fun _ _ => 0)

def rotations : List Nat :=
  [0, 1, 62, 28, 27, 36, 44, 6, 55, 20, 3, 10, 43, 25, 39, 41, 45, 15, 21, 8, 18, 2, 61, 56, 14]

/-- What each of the twenty-four rounds adds to the first word. -/
def constants : List UInt64 :=
  [
    0x0000000000000001, 0x0000000000008082, 0x800000000000808a, 0x8000000080008000,
    0x000000000000808b, 0x0000000080000001, 0x8000000080008081, 0x8000000000008009,
    0x000000000000008a, 0x0000000000000088, 0x0000000080008009, 0x000000008000000a,
    0x000000008000808b, 0x800000000000008b, 0x8000000000008089, 0x8000000000008003,
    0x8000000000008002, 0x8000000000000080, 0x000000000000800a, 0x800000008000000a,
    0x8000000080008081, 0x8000000000008080, 0x0000000080000001, 0x8000000080008008
  ]

/-- Adds to each word the sums of two columns beside its own. -/
def spread (s : State) : State :=
  let sums := (List.range 5).map (fun column =>
    (List.range 5).foldl (fun sum row => sum ^^^ s.word column row) 0)
  let sum (column : Nat) : UInt64 := sums.getD (column % 5) 0
  .ofFn (fun column row =>
    s.word column row ^^^ sum (column + 4) ^^^ rotateLeft (sum (column + 1)) 1)

/-- Rotates each word and moves it to another place. -/
def move (s : State) : State :=
  let turned := (s.zip rotations).map (fun (word, distance) => rotateLeft word distance)
  .ofFn (fun column row => State.word turned (column + 3 * row) column)

/-- Mixes the words of each row. -/
def combine (s : State) : State :=
  .ofFn (fun column row =>
    s.word column row ^^^ (~~~s.word (column + 1) row &&& s.word (column + 2) row))

def round (s : State) (constant : UInt64) : State :=
  match combine (move (spread s)) with
  | [] => []
  | first :: rest => (first ^^^ constant) :: rest

def absorb (s : State) (block : List UInt64) : State :=
  constants.foldl round (.ofFn (fun column row =>
    s.word column row ^^^ block.getD (column + 5 * row) 0))

/-- The message with its two marks, which may fall on one byte. -/
def padded (size : Nat) (message : List UInt8) : List UInt8 :=
  match size - 1 - message.length % size with
  | 0 => message ++ [0x86]
  | gap + 1 => message ++ 0x06 :: List.replicate gap 0 ++ [0x80]

/-- A digest of `length` bytes leaves twice as many bytes of the state untouched. -/
def run (length : Nat) (message : List UInt8) : List UInt8 :=
  let size := 200 - 2 * length
  let blocks := (chunks size (padded size message)).map (fun block =>
    (chunks 8 block).map (fun bytes => UInt64.ofNat (ByteOrder.lowFirst.value bytes)))
  (wordBytes .lowFirst (blocks.foldl absorb start)).take length

end Sha3

def sha3 : Nat → List UInt8 → List UInt8 := Sha3.run

end NumberingPlan.Digest
