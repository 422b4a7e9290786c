import NumberingPlan.Text.Decimal

/-! Double-precision numbers and their numerals. A numeral has the fewest digits from which
reading, which takes the nearest number, gives the number again. All arithmetic is exact. -/

namespace NumberingPlan

/-- A fraction that is not negative. -/
structure Fraction where
  numerator : Nat
  denominator : Nat
  deriving DecidableEq, Repr

namespace Fraction

def ofNat (n : Nat) : Fraction := ⟨n, 1⟩

/-- The fraction times `base ^ power`. -/
def scale (x : Fraction) (base : Nat) (power : Int) : Fraction :=
  ⟨x.numerator * base.pow power.toNat, x.denominator * base.pow (-power).toNat⟩

def floor (x : Fraction) : Nat := x.numerator / x.denominator

/-- The nearest whole number; of two, the even one. -/
def round (x : Fraction) : Nat :=
  let whole := x.floor
  let twice := 2 * (x.numerator % x.denominator)
  if twice < x.denominator || twice == x.denominator && whole % 2 == 0 then whole else whole + 1

end Fraction

/-- A number is `significand * 2 ^ power` with a sign, so that there are two zeros; the significand
stays below `2 ^ 53` and the power between `-1074` and `971`. -/
inductive Double where
  | finite (negative : Bool) (significand : Nat) (power : Int)
  | infinite (negative : Bool)
  | undefined
  deriving DecidableEq, Repr

namespace Double

/-- The least significand of a number that is not among the smallest. -/
def leastFull : Nat := Nat.pow 2 52

def leastPower : Int := -1074

def greatestPower : Int := 971

def isZero : Double → Bool
  | finite _ significand _ => significand == 0
  | _ => false

def isFinite : Double → Bool
  | finite .. => true
  | _ => false

/-- The number of a significand that may have reached `2 ^ 53`. -/
def carry (negative : Bool) (significand : Nat) (power : Int) : Double :=
  let full := significand == 2 * leastFull
  let power := if full then power + 1 else power
  if greatestPower < power then infinite negative
  else finite negative (if full then leastFull else significand) power

def ofFraction (negative : Bool) (x : Fraction) : Double :=
  if x.numerator = 0 then finite negative 0 leastPower
  else
    let size : Int := (x.numerator.log2 : Int) - x.denominator.log2
    let power := max (size - 53) leastPower
    let power := if (x.scale 2 (-power)).floor < 2 * leastFull then power else power + 1
    carry negative (x.scale 2 (-power)).round power

/-- The number nearest to `digits * 10 ^ power`. The bounds only spare the arithmetic where the
size alone decides. -/
def ofDecimal (negative : Bool) (digits : Nat) (power : Int) : Double :=
  let places := ((Decimal.ofNat digits).length : Int) + power
  if digits = 0 || places < -330 then finite negative 0 leastPower
  else if 330 < places then infinite negative
  else ofFraction negative ((Fraction.ofNat digits).scale 10 power)

/-- Decimal digits as a whole number with the power of ten that belongs to it. -/
structure Digits where
  value : Nat
  power : Int
  deriving DecidableEq, Repr

/-- All digits of `significand * 2 ^ power`. -/
def exact (significand : Nat) (power : Int) : Digits :=
  ⟨significand * Nat.pow 2 power.toNat * Nat.pow 5 (-power).toNat, min power 0⟩

/-- How many digits stand before the point; below one, minus the number of zeros behind it. -/
def magnitude (x : Fraction) : Int :=
  (Decimal.ofNat (x.scale 10 350).floor).length - 350

/-- A decimal of `count` digits that reads back as the number, the nearest one. It lies between
the middles of the number and its neighbours, or on them when the significand is even. Fractions
are in quarters of the last place, as the neighbour below a power of two is only half as far. -/
def digits? (significand : Nat) (power : Int) (count : Nat) : Option Digits :=
  let place := magnitude ((Fraction.ofNat significand).scale 2 power) - count
  let inPlaces (quarters : Nat) : Fraction :=
    ((Fraction.ofNat quarters).scale 2 (power - 2)).scale 10 (-place)
  let nearBelow := significand == leastFull && decide (leastPower < power)
  let least := (inPlaces (4 * significand - if nearBelow then 1 else 2)).numerator
  let middle := inPlaces (4 * significand)
  let greatest := (inPlaces (4 * significand + 2)).numerator
  let below := middle.floor
  let even := significand % 2 == 0
  let reads (value : Nat) : Bool :=
    let value := value * middle.denominator
    decide (least < value) && decide (value < greatest)
      || even && (value == least || value == greatest)
  match reads below, reads (below + 1) with
  | true, true => some ⟨middle.round, place⟩
  | true, false => some ⟨below, place⟩
  | false, true => some ⟨below + 1, place⟩
  | false, false => none

/-- The fewest digits that read back as the number. Seventeen are always enough. -/
def shortest (significand : Nat) (power : Int) : Digits :=
  ((List.range' 1 17).findSome? (digits? significand power)).getD (exact significand power)

def zeros (count : Int) : List Char := List.replicate count.toNat '0'

/-- From `10 ^ -4` up to `10 ^ 16` a number is written without a power of ten. -/
def isPlain (point : Int) : Bool := decide (-4 < point) && decide (point ≤ 16)

/-- Digits with their point before place `point`. A number that is very large or very small has
one digit before the point, and its power of ten behind with a sign and two digits at least. -/
def layOut (digits : List Char) (point : Int) : List Char :=
  if isPlain point then
    if point ≤ 0 then '0' :: '.' :: zeros (-point) ++ digits
    else if digits.length ≤ point then digits ++ zeros (point - digits.length) ++ ['.', '0']
    else digits.take point.toNat ++ '.' :: digits.drop point.toNat
  else
    let places := digits.drop 1
    let power := (point - 1).natAbs
    digits.take 1 ++ (if places.isEmpty then [] else '.' :: places)
      ++ 'e' :: (if point < 1 then '-' else '+')
      :: (if power < 10 then ['0'] else []) ++ Decimal.ofNat power

def finiteChars (significand : Nat) (power : Int) : List Char :=
  if significand = 0 then ['0', '.', '0']
  else
    let found := shortest significand power
    let digits := Decimal.ofNat found.value
    let kept := (digits.reverse.dropWhile (· == '0')).reverse
    layOut kept (digits.length + found.power)

structure Wording where
  infinite : String
  undefined : String

def chars (wording : Wording) : Double → List Char
  | finite negative significand power =>
    (if negative then ['-'] else []) ++ finiteChars significand power
  | infinite negative => (if negative then ['-'] else []) ++ wording.infinite.toList
  | undefined => wording.undefined.toList

end Double

end NumberingPlan
