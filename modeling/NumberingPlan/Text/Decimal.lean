/-! Decimal numerals over ASCII digits. A numeral is a nonempty run of digits, leading zeros
included; its value is unbounded, and reading back a written number gives the number. -/

namespace NumberingPlan.Decimal

/-- A numeral with more digits than this is not read. -/
def maxDigits : Nat := 4300

def isNumeral (text : List Char) : Bool :=
  !text.isEmpty && text.all Char.isDigit

def value (digits : List Char) : Nat :=
  Nat.ofDigitChars 10 digits 0

def ofNat (n : Nat) : List Char :=
  Nat.toDigits 10 n

def ofInt : Int → List Char
  | .ofNat n => ofNat n
  | .negSucc n => '-' :: ofNat (n + 1)

theorem value_ofNat (n : Nat) : value (ofNat n) = n :=
  Nat.ofDigitChars_toDigits (by decide) (by decide)

/-- The number as a text, whatever its number of digits: the bound is one of reading alone, and
texts are not written where a number has more. -/
def text (n : Int) : String :=
  String.ofList (ofInt n)

/-- The wording for a numeral of that many digits. -/
def tooLong (digits : Nat) : String :=
  "Exceeds the limit (4300 digits) for integer string conversion: value has "
    ++ text digits ++ " digits; use sys.set_int_max_str_digits() to increase the limit"

/-- The value of a numeral, refused by its number of digits when it has too many. -/
def read (digits : List Char) : Except Nat Nat :=
  if digits.length ≤ maxDigits then .ok (value digits) else .error digits.length

end NumberingPlan.Decimal
