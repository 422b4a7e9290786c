import NumberingPlan.Digest.Block

/-! The SHA-2 family. Its constants are the first bits after the point of the square and cube
roots of the first primes. -/

namespace NumberingPlan.Digest

/-- Adds to a root the bits below `2 ^ bits` that keep its power at most `n`. -/
def growRoot (degree n : Nat) : Nat → Nat → Nat
  | 0, root => root
  | bits + 1, root =>
    let larger := root + Nat.pow 2 bits
    growRoot degree n bits (if larger.pow degree ≤ n then larger else root)

/-- The greatest number whose power is at most `n`. -/
def floorRoot (degree n : Nat) : Nat := growRoot degree n (n.log2 / degree + 1) 0

/-- The first `bits` binary places of the root of `n`. -/
def rootPlaces (degree bits n : Nat) : Nat :=
  floorRoot degree (n * Nat.pow 2 (degree * bits)) % Nat.pow 2 bits

def isPrime (n : Nat) : Bool :=
  decide (2 ≤ n) && (List.range n).all (fun d => decide (d < 2) || n % d != 0)

/-- The first eighty primes. -/
def primes : List Nat := (List.range 410).filter isPrime

namespace Sha2

structure State (α : Type) where
  a : α
  b : α
  c : α
  d : α
  e : α
  f : α
  g : α
  h : α

def State.ofFn {α : Type} (word : Nat → α) : State α :=
  ⟨word 0, word 1, word 2, word 3, word 4, word 5, word 6, word 7⟩

def State.toList {α : Type} (s : State α) : List α := [s.a, s.b, s.c, s.d, s.e, s.f, s.g, s.h]

@[specialize] def State.add {α : Type} [Word α] (s t : State α) : State α :=
  ⟨s.a + t.a, s.b + t.b, s.c + t.c, s.d + t.d, s.e + t.e, s.f + t.f, s.g + t.g, s.h + t.h⟩

/-- The distances of the mixing functions. A large one rotates three times; a small one rotates
twice and shifts once. -/
structure Mixing where
  large0 : Nat × Nat × Nat
  large1 : Nat × Nat × Nat
  small0 : Nat × Nat × Nat
  small1 : Nat × Nat × Nat

@[specialize] def large {α : Type} [Word α] (by3 : Nat × Nat × Nat) (x : α) : α :=
  rotateRight x by3.1 ^^^ rotateRight x by3.2.1 ^^^ rotateRight x by3.2.2

@[specialize] def small {α : Type} [Word α] (by3 : Nat × Nat × Nat) (x : α) : α :=
  rotateRight x by3.1 ^^^ rotateRight x by3.2.1 ^^^ Word.right x by3.2.2

/-- Puts `count` more words in front of the schedule, which is kept latest first. -/
@[specialize] def extend {α : Type} [Word α] (mixing : Mixing) : Nat → List α → List α
  | 0, words => words
  | count + 1, words =>
    let word (back : Nat) : α := words.getD (back - 1) (Word.ofNat 0)
    let next := small mixing.small1 (word 2) + word 7 + small mixing.small0 (word 15) + word 16
    extend mixing count (next :: words)

@[specialize] def round {α : Type} [Word α] (mixing : Mixing) (s : State α) (input : α × α) :
    State α :=
  let choice := (s.e &&& s.f) ^^^ (~~~s.e &&& s.g)
  let majority := (s.a &&& s.b) ^^^ (s.a &&& s.c) ^^^ (s.b &&& s.c)
  let one := s.h + large mixing.large1 s.e + choice + input.1 + input.2
  let two := large mixing.large0 s.a + majority
  ⟨one + two, s.a, s.b, s.c, s.d + one, s.e, s.f, s.g⟩

@[specialize] def compress {α : Type} [Word α] (mixing : Mixing) (constants : List α)
    (s : State α) (block : List α) : State α :=
  let schedule := (extend mixing (constants.length - 16) block.reverse).reverse
  s.add ((constants.zip schedule).foldl (round mixing) s)

@[specialize] def run {α : Type} [Word α] (mixing : Mixing) (constants : List α)
    (start : State α) (message : List UInt8) : List UInt8 :=
  let final := (blocks α .highFirst message).foldl (compress mixing constants) start
  wordBytes .highFirst final.toList

def mixing32 : Mixing := ⟨(2, 13, 22), (6, 11, 25), (7, 18, 3), (17, 19, 10)⟩

def mixing64 : Mixing := ⟨(28, 34, 39), (14, 18, 41), (1, 8, 7), (19, 61, 6)⟩

def constants32 : List UInt32 :=
  (primes.take 64).map (fun p => UInt32.ofNat (rootPlaces 3 32 p))

def constants64 : List UInt64 :=
  primes.map (fun p => UInt64.ofNat (rootPlaces 3 64 p))

/-- The square roots of eight primes in a row. -/
def rootStart (α : Type) [Word α] (bits skip : Nat) : State α :=
  .ofFn (fun i => Word.ofNat (rootPlaces 2 bits (primes.getD (skip + i) 0)))

def start256 : State UInt32 := rootStart UInt32 32 0

/-- The lower halves of the words that the longer digest starts with. -/
def start224 : State UInt32 := rootStart UInt32 64 8

def start512 : State UInt64 := rootStart UInt64 64 0

def start384 : State UInt64 := rootStart UInt64 64 8

end Sha2

def sha256 : List UInt8 → List UInt8 := Sha2.run Sha2.mixing32 Sha2.constants32 Sha2.start256

def sha224 (message : List UInt8) : List UInt8 :=
  (Sha2.run Sha2.mixing32 Sha2.constants32 Sha2.start224 message).take 28

def sha512 : List UInt8 → List UInt8 := Sha2.run Sha2.mixing64 Sha2.constants64 Sha2.start512

def sha384 (message : List UInt8) : List UInt8 :=
  (Sha2.run Sha2.mixing64 Sha2.constants64 Sha2.start384 message).take 48

/-- The longer digest cut to `bits` bits, from a start of its own: the digest of its name, taken
from a changed start. -/
def sha512Cut (bits : Nat) (message : List UInt8) : List UInt8 :=
  let changed := Sha2.State.ofFn (fun i => Sha2.start512.toList.getD i 0 ^^^ 0xa5a5a5a5a5a5a5a5)
  let name := ("SHA-512/" ++ toString bits).toUTF8.toList
  let words := (chunks 8 (Sha2.run Sha2.mixing64 Sha2.constants64 changed name)).map
    (fun bytes => UInt64.ofNat (ByteOrder.highFirst.value bytes))
  let start := Sha2.State.ofFn (fun i => words.getD i 0)
  (Sha2.run Sha2.mixing64 Sha2.constants64 start message).take (bits / 8)

end NumberingPlan.Digest
