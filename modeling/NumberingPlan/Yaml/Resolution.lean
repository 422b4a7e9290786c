import NumberingPlan.Text.Split
import NumberingPlan.Yaml.Node

/-! Which tag a scalar without quotes and without a tag of its own has. Its text decides, by the
forms that the kinds of scalars have; a text of no such form is just a text. -/

namespace NumberingPlan.Yaml.Resolution

def nulls : List String := ["", "~", "null", "Null", "NULL"]

def bools : List String :=
  ["yes", "Yes", "YES", "no", "No", "NO", "true", "True", "TRUE", "false", "False", "FALSE",
    "on", "On", "ON", "off", "Off", "OFF"]

def dropSign : List Char → List Char
  | '+' :: rest => rest
  | '-' :: rest => rest
  | text => text

/-- A digit or an underscore. -/
def isSpacedDigit (c : Char) : Bool := c.isDigit || c == '_'

/-- A digit, then digits and underscores. -/
def isSpacedNumeral : List Char → Bool
  | c :: rest => c.isDigit && rest.all isSpacedDigit
  | [] => false

/-- A number below sixty of one digit or two. -/
def isSixtieth : List Char → Bool
  | [c] => c.isDigit
  | [c, d] => '0' ≤ c && c ≤ '5' && d.isDigit
  | _ => false

/-- A numeral, then parts below sixty behind colons, one at least. -/
def isSixtieths (head : List Char → Bool) (text : List Char) : Bool :=
  match Text.split ':' text with
  | first :: second :: rest => head first && (second :: rest).all isSixtieth
  | _ => false

/-- A spaced numeral that does not begin with zero. -/
def isCounting (text : List Char) : Bool :=
  isSpacedNumeral text && text.head? != some '0'

/-- Everything behind a mark, one character at least, of a class. -/
def isMarked (mark : List Char) (p : Char → Bool) (text : List Char) : Bool :=
  mark.isPrefixOf text && text.length > mark.length && (text.drop mark.length).all p

def isBit (c : Char) : Bool := c == '0' || c == '1' || c == '_'

def isOctal (c : Char) : Bool := Text.isOctalDigit c || c == '_'

def isHex (c : Char) : Bool := Text.isHexDigit c || c == '_'

def isInt (text : List Char) : Bool :=
  let text := dropSign text
  isMarked ['0', 'b'] isBit text || isMarked ['0'] isOctal text || text == ['0']
    || isCounting text || isMarked ['0', 'x'] isHex text || isSixtieths isCounting text

/-- Nothing, or the sign and digits of an exponent. -/
def isExponent : List Char → Bool
  | [] => true
  | e :: sign :: digits =>
    (e == 'e' || e == 'E') && (sign == '+' || sign == '-') && Decimal.isNumeral digits
  | _ => false

/-- A number's whole part, when it has a point, and what lies behind the point. -/
def atPoint (text : List Char) : Option (List Char × List Char) :=
  let whole := text.takeWhile (· != '.')
  match text.drop whole.length with
  | '.' :: rest => some (whole, rest)
  | _ => none

def isFloat (text : List Char) : Bool :=
  let unsigned := dropSign text
  let named (names : List String) (text : List Char) := names.contains (String.ofList text)
  named [".inf", ".Inf", ".INF"] unsigned || named [".nan", ".NaN", ".NAN"] text
    || (match atPoint text with
        | some ([], places) => isSpacedNumeral (places.takeWhile isSpacedDigit)
            && isExponent (places.dropWhile isSpacedDigit)
        | _ => false)
    || (match atPoint unsigned with
        | some (whole, places) =>
          (isSpacedNumeral whole && isExponent (places.dropWhile isSpacedDigit))
            || (isSixtieths isSpacedNumeral whole && places.all isSpacedDigit)
        | none => false)

/-- Takes between `least` and `most` digits. -/
def takeDigits (least most : Nat) (text : List Char) : Option (List Char × List Char) :=
  let digits := (text.take most).takeWhile Char.isDigit
  if least ≤ digits.length then some (digits, text.drop digits.length) else none

/-- The mark that parts two fields. -/
def takeMark (mark : Char) : List Char → Option (List Char)
  | [] => none
  | c :: rest => if c == mark then some rest else none

/-- A zone's hours and minutes behind its sign. -/
structure Zone where
  negative : Bool
  hour : Nat
  minute : Nat

structure Clock where
  hour : Nat
  minute : Nat
  second : Nat
  zone : Option Zone := none

/-- A date, with the numbers of digits that its month and day have, and perhaps a time. -/
structure Moment where
  year : Nat
  month : Nat
  day : Nat
  fullDate : Bool
  clock : Option Clock := none

/-- What lies behind the seconds: a fraction, blanks and a zone; the fraction tells nothing here. -/
def zoneOf (text : List Char) : Option (Option Zone) :=
  let text := match text with
    | '.' :: places => places.dropWhile Char.isDigit
    | _ => text
  if text.isEmpty then some none
  else
    match text.dropWhile (fun c => c == ' ' || c == '\t') with
    | ['Z'] => some none
    | sign :: rest =>
      if sign == '+' || sign == '-' then do
        let (hour, rest) ← takeDigits 1 2 rest
        if rest.isEmpty then some (some ⟨sign == '-', Decimal.value hour, 0⟩)
        else
          let rest ← takeMark ':' rest
          let (minute, rest) ← takeDigits 2 2 rest
          if rest.isEmpty then some (some ⟨sign == '-', Decimal.value hour, Decimal.value minute⟩)
          else none
      else none
    | [] => none

def clockOf (text : List Char) : Option Clock := do
  let (hour, rest) ← takeDigits 1 2 text
  let rest ← takeMark ':' rest
  let (minute, rest) ← takeDigits 2 2 rest
  let rest ← takeMark ':' rest
  let (second, rest) ← takeDigits 2 2 rest
  let zone ← zoneOf rest
  some ⟨Decimal.value hour, Decimal.value minute, Decimal.value second, zone⟩

/-- The fields of a date and a time; whether they name a real day is another question. -/
def moment? (text : List Char) : Option Moment := do
  let (year, rest) ← takeDigits 4 4 text
  let rest ← takeMark '-' rest
  let (month, rest) ← takeDigits 1 2 rest
  let rest ← takeMark '-' rest
  let (day, rest) ← takeDigits 1 2 rest
  let date : Moment := ⟨Decimal.value year, Decimal.value month, Decimal.value day,
    month.length == 2 && day.length == 2, none⟩
  match rest with
  | [] => some date
  | 'T' :: rest => some { date with clock := some (← clockOf rest) }
  | 't' :: rest => some { date with clock := some (← clockOf rest) }
  | c :: _ =>
    if c == ' ' || c == '\t' then
      let clock ← clockOf (rest.dropWhile (fun c => c == ' ' || c == '\t'))
      some { date with clock := some clock }
    else none

/-- A line end behind a text tells nothing of its form, unless there is nothing before it. -/
def dropLineEnd (text : List Char) : List Char :=
  match text.reverse with
  | '\n' :: c :: rest => (c :: rest).reverse
  | _ => text

/-- A date alone has two digits for its month and two for its day. -/
def isTimestamp (text : List Char) : Bool :=
  match moment? text with
  | none => false
  | some moment => moment.fullDate || moment.clock.isSome

def tagOf (text : List Char) : Tag :=
  let text := dropLineEnd text
  let isOneOf (names : List String) := names.contains (String.ofList text)
  if isOneOf nulls then .null
  else if isOneOf bools then .bool
  else if isFloat text then .float
  else if isInt text then .int
  else if isOneOf ["<<"] then .merge
  else if isTimestamp text then .timestamp
  else if isOneOf ["="] then .value
  else if isOneOf ["!", "&", "*"] then .unknown text
  else .text

end NumberingPlan.Yaml.Resolution
