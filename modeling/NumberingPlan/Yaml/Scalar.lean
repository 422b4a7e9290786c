import NumberingPlan.Text.Integer
import NumberingPlan.Unicode.Lower
import NumberingPlan.Yaml.Document
import NumberingPlan.Yaml.Resolution

/-! The values of YAML scalars. Truth values and whole numbers are read; of a float, a time or
binary data it is only told whether the text has a value. -/

namespace NumberingPlan.Yaml

open Text (CodePoint)

namespace Scalar

def shown (text : List CodePoint) : List Char := text.map CodePoint.shown

/-- The text in small letters; halves of pairs stay. -/
def lower (text : List CodePoint) : List CodePoint :=
  ((text.zip (Unicode.lowerEach [] (shown text))).map fun (point, small) =>
    match point with
    | .char _ => small.map .char
    | .surrogate _ => [point]).flatten

def bools : List (String × Bool) :=
  [("yes", true), ("no", false), ("true", true), ("false", false), ("on", true), ("off", false)]

def readBool (text : List CodePoint) : Except ValueFault Datum :=
  let word := lower text
  match bools.lookup (CodePoint.string word) with
  | some value => .ok (.bool value)
  | none => .error (.notBool word)

/-- Underscores count for nothing. -/
def dropUnderscores (text : List CodePoint) : List CodePoint := text.filter (· != .char '_')

/-- A minus is kept as a sign; either sign is taken off. -/
def unsigned : List Char → Bool × List Char
  | '-' :: rest => (true, rest)
  | '+' :: rest => (false, rest)
  | text => (false, text)

/-- The same with the points of a text. -/
def takeSign : List CodePoint → Bool × List CodePoint
  | .char '-' :: rest => (true, rest)
  | .char '+' :: rest => (false, rest)
  | text => (false, text)

def withSign (negative : Bool) (n : Int) : Int := if negative then -n else n

/-- Ten is read with digits of any script and with a limit to their number. -/
def readDecimal (text : List CodePoint) : Except ValueFault Int :=
  match Integer.read (shown text) with
  | .ok n => .ok n
  | .error .malformed => .error (.notInteger text 10)
  | .error (.tooLong digits) => .error (.numeralTooLong digits)

/-- The letter behind a zero that announces a base. -/
def baseLetter : Nat → Char
  | 2 => 'b'
  | 8 => 'o'
  | _ => 'x'

def digitIn (base : Nat) (c : Char) : Option Nat :=
  let value :=
    match Unicode.digitValue? c with
    | some value => some value
    | none => if Text.isHexDigit c then some (Text.hexDigitValue c) else none
  value.filter (· < base)

/-- Takes off what announces the base. -/
def dropBase (base : Nat) : List Char → List Char
  | '0' :: letter :: rest =>
    if letter.toLower == baseLetter base then rest else '0' :: letter :: rest
  | text => text

def readBase (base : Nat) (text : List CodePoint) : Except ValueFault Int :=
  let (negative, digits) := unsigned (Integer.trim (shown text))
  let digits := dropBase base digits
  match digits.mapM (digitIn base) with
  | some (first :: rest) =>
    .ok (withSign negative (Int.ofNat ((first :: rest).foldl (fun n d => n * base + d) 0)))
  | _ => .error (.notInteger text base)

/-- Parts to the base sixty, the highest first. -/
def readSixtieths (text : List CodePoint) : Except ValueFault Int := do
  let parts ← (Text.split (.char ':') text).mapM readDecimal
  .ok (parts.foldl (fun n part => n * 60 + part) 0)

/-- A whole number: the beginning tells the base. -/
def readInt (text : List CodePoint) : Except ValueFault Datum := do
  let digits := dropUnderscores text
  if digits.isEmpty then .error .emptyNumber
  else
    let (negative, digits) := takeSign digits
    let magnitude ←
      match digits with
      | [] => .error .emptyNumber
      | [.char '0'] => .ok 0
      | .char '0' :: .char 'b' :: rest => readBase 2 rest
      | .char '0' :: .char 'x' :: rest => readBase 16 rest
      | .char '0' :: rest => readBase 8 (.char '0' :: rest)
      | digits =>
        if digits.contains (.char ':') then readSixtieths digits else readDecimal digits
    .ok (.int (withSign negative magnitude))

/-- Digits of any script, one at least, and what follows them. -/
def dropDigits (text : List Char) : Option (List Char) :=
  let rest := text.dropWhile (fun c => (Unicode.digitValue? c).isSome)
  if rest.length < text.length then some rest else none

/-- Nothing, or an exponent with digits. -/
def endsDecimal : List Char → Bool
  | [] => true
  | 'e' :: rest => dropDigits (unsigned rest).2 == some []
  | _ => false

/-- Whether a lower-case text is a decimal number, infinite ones and the undefined one included. -/
def isDecimal (text : List Char) : Bool :=
  let number := (unsigned (Integer.trim text)).2
  [("inf"), ("infinity"), ("nan")].contains (String.ofList number)
    || (match dropDigits number with
        | some ('.' :: places) => endsDecimal ((dropDigits places).getD places)
        | some rest => endsDecimal rest
        | none =>
          match number with
          | '.' :: places => (dropDigits places).any endsDecimal
          | _ => false)

/-- The most parts to the base sixty that a float has room for. -/
def maxSixtieths : Nat := 174

def readFloat (text : List CodePoint) : Except ValueFault Datum :=
  let digits := lower (dropUnderscores text)
  if digits.isEmpty then .error .emptyNumber
  else
    let number := (takeSign digits).2
    let parts :=
      if [".inf", ".nan"].contains (CodePoint.string number) then []
      else Text.split (.char ':') number
    match parts.find? (fun part => !isDecimal (shown part)) with
    | some part => .error (.notDecimal part)
    | none => if maxSixtieths < parts.length then .error .tooManySixtieths else .ok .other

def isLeap (year : Nat) : Bool := year % 4 == 0 && (year % 100 != 0 || year % 400 == 0)

def daysIn (year month : Nat) : Nat :=
  if month = 2 then (if isLeap year then 29 else 28)
  else if month ∈ [4, 6, 9, 11] then 30
  else 31

/-- A zone is less than a day away. -/
def checkZone (zone : Resolution.Zone) : Except ValueFault Unit :=
  let minutes : Int := zone.hour * 60 + zone.minute
  let offset := withSign zone.negative minutes
  if minutes < 1440 then .ok ()
  else .error (.zone (offset.fdiv 1440) (offset.fmod 1440 * 60))

def checkDate (moment : Resolution.Moment) : Except ValueFault Unit :=
  if moment.year = 0 then .error .year
  else if moment.month = 0 || 12 < moment.month then .error .month
  else if moment.day = 0 || daysIn moment.year moment.month < moment.day then .error .day
  else .ok ()

def checkClock (clock : Resolution.Clock) : Except ValueFault Unit :=
  if 23 < clock.hour then .error .hour
  else if 59 < clock.minute then .error .minute
  else if 59 < clock.second then .error .second
  else .ok ()

/-- A date of the calendar, and a time of the day if one is given; its zone is looked at first. -/
def readTime (text : List Char) : Except ValueFault Datum :=
  match Resolution.moment? (Resolution.dropLineEnd text) with
  | none => .error .notTime
  | some moment => do
    if let some zone := moment.clock.bind (·.zone) then checkZone zone
    checkDate moment
    if let some clock := moment.clock then checkClock clock
    .ok .other

/-- Whether a character is one of the sixty-four of binary data. -/
def isSextet (c : Char) : Bool := c.isAlphanum || c == '+' || c == '/'

/-- Whether binary data are whole: `count` characters of the last four are there, and `pads` marks
of padding in a row. Other characters count for nothing. -/
def isWhole : Nat → Nat → List Char → Bool
  | count, _, [] => count == 0
  | count, pads, c :: rest =>
    if c == '=' then
      if 2 ≤ count then (4 ≤ count + pads + 1) || isWhole count (pads + 1) rest
      else isWhole count pads rest
    else if isSextet c then isWhole ((count + 1) % 4) 0 rest
    else isWhole count pads rest

end Scalar

def Tag.read (tag : Tag) (text : List CodePoint) : Except Fault Datum :=
  match tag with
  | null => .ok .null
  | bool => (Scalar.readBool text).mapError .value
  | int => (Scalar.readInt text).mapError .value
  | float => (Scalar.readFloat text).mapError .value
  | timestamp => (Scalar.readTime (Scalar.shown text)).mapError .value
  | binary =>
    let chars := Scalar.shown text
    if chars.all (fun c => c.toNat < 0x80) && Scalar.isWhole 0 0 chars then .ok .other
    else .error (.malformed .unknownTag)
  | Tag.text => .ok (.text (CodePoint.string text))
  | sequence | mapping | set | orderedMapping | pairs => .error (.malformed .kindMismatch)
  | merge | value | unknown _ => .error (.malformed .unknownTag)

end NumberingPlan.Yaml
