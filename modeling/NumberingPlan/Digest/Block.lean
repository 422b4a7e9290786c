/-! Messages as whole blocks of words. A digest pads its message with a single one bit, zeros and
the message's length, so that messages of different length never agree once padded. -/

namespace NumberingPlan.Digest

/-- A machine word whose sums wrap around. -/
class Word (α : Type) extends Add α, AndOp α, OrOp α, XorOp α, Complement α where
  bits : Nat
  ofNat : Nat → α
  toNat : α → Nat
  left : α → Nat → α
  right : α → Nat → α

instance : Word UInt32 where
  bits := 32
  ofNat := UInt32.ofNat
  toNat := UInt32.toNat
  left x n := x <<< UInt32.ofNat n
  right x n := x >>> UInt32.ofNat n

instance : Word UInt64 where
  bits := 64
  ofNat := UInt64.ofNat
  toNat := UInt64.toNat
  left x n := x <<< UInt64.ofNat n
  right x n := x >>> UInt64.ofNat n

/-- Moves the lowest `n` bits to the top. -/
@[specialize] def rotateRight {α : Type} [Word α] (x : α) (n : Nat) : α :=
  Word.right x n ||| Word.left x (Word.bits α - n)

/-- Moves the highest `n` bits to the bottom. -/
@[specialize] def rotateLeft {α : Type} [Word α] (x : α) (n : Nat) : α :=
  Word.left x n ||| Word.right x (Word.bits α - n)

/-- The lowest `count` bytes of a number, the lowest first. -/
def lowBytes : Nat → Nat → List UInt8
  | 0, _ => []
  | count + 1, n => UInt8.ofNat n :: lowBytes count (n / 256)

/-- Where the byte of highest weight stands. -/
inductive ByteOrder where
  | highFirst
  | lowFirst
  deriving DecidableEq, Repr

namespace ByteOrder

def bytes (order : ByteOrder) (count n : Nat) : List UInt8 :=
  match order with
  | highFirst => (lowBytes count n).reverse
  | lowFirst => lowBytes count n

def value (order : ByteOrder) (bytes : List UInt8) : Nat :=
  let highToLow := match order with
    | highFirst => bytes
    | lowFirst => bytes.reverse
  highToLow.foldl (fun n byte => n * 256 + byte.toNat) 0

end ByteOrder

def chunks {α : Type} (size : Nat) (items : List α) : List (List α) :=
  if _h : size = 0 ∨ items = [] then []
  else items.take size :: chunks size (items.drop size)
termination_by items.length
decreasing_by
  rw [List.length_drop]
  have : items.length ≠ 0 := fun none => _h (.inr (List.length_eq_zero_iff.1 none))
  omega

/-- The message, the mark, zeros and the length in bits; a block has `size` bytes and the length
`lengthSize` of them. -/
def padded (order : ByteOrder) (size lengthSize : Nat) (message : List UInt8) : List UInt8 :=
  let used := (message.length + 1 + lengthSize) % size
  message ++ 0x80 :: List.replicate ((size - used) % size) 0
    ++ order.bytes lengthSize (8 * message.length)

def blocks (α : Type) [Word α] (order : ByteOrder) (message : List UInt8) : List (List α) :=
  let width := Word.bits α / 8
  (chunks (16 * width) (padded order (16 * width) (2 * width) message)).map
    (fun block => (chunks width block).map (fun bytes => Word.ofNat (order.value bytes)))

def wordBytes {α : Type} [Word α] (order : ByteOrder) (words : List α) : List UInt8 :=
  words.flatMap (fun word => order.bytes (Word.bits α / 8) (Word.toNat word))

end NumberingPlan.Digest
