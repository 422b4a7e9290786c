import NumberingPlan.Text.Double
import NumberingPlan.Text.Hex

/-! JSON values and their compact text: no blanks, and every character that is not printable
ASCII written as an escape, those beyond the first plane as two. -/

namespace NumberingPlan

inductive Json where
  | null
  | bool (value : Bool)
  | int (value : Int)
  | number (value : Double)
  | string (value : String)
  | array (items : List Json)
  | object (members : List (String × Json))
  deriving Repr

namespace Json

def unicodeEscape (unit : Nat) : List Char := '\\' :: 'u' :: Text.hex 4 unit

/-- One character inside a string. -/
def escapeChar (c : Char) : List Char :=
  match c with
  | '"' => ['\\', '"']
  | '\\' => ['\\', '\\']
  | '\n' => ['\\', 'n']
  | '\r' => ['\\', 'r']
  | '\t' => ['\\', 't']
  | '\x0c' => ['\\', 'f']
  | '\x08' => ['\\', 'b']
  | _ =>
    let n := c.toNat
    if 0x20 ≤ n && n < 0x7f then [c]
    else if n < 0x10000 then unicodeEscape n
    else
      let offset := n - 0x10000
      unicodeEscape (0xd800 + offset / 0x400) ++ unicodeEscape (0xdc00 + offset % 0x400)

def stringChars (value : String) : List Char :=
  '"' :: value.toList.flatMap escapeChar ++ ['"']

/-- Numbers without digits have names that stand outside the format. -/
def wording : Double.Wording := ⟨"Infinity", "NaN"⟩

mutual

def chars : Json → List Char
  | null => "null".toList
  | bool true => "true".toList
  | bool false => "false".toList
  | int value => Decimal.ofInt value
  | number value => value.chars wording
  | string value => stringChars value
  | array items => '[' :: itemsChars items ++ [']']
  | object members => '\x7b' :: membersChars members ++ ['\x7d']

def itemsChars : List Json → List Char
  | [] => []
  | [item] => item.chars
  | item :: next :: rest => item.chars ++ ',' :: itemsChars (next :: rest)

def membersChars : List (String × Json) → List Char
  | [] => []
  | [(key, value)] => stringChars key ++ ':' :: value.chars
  | (key, value) :: next :: rest =>
    stringChars key ++ ':' :: (value.chars ++ ',' :: membersChars (next :: rest))

end

def text (value : Json) : String := String.ofList value.chars

def strings (values : List String) : Json := array (values.map string)

def ofOption {α : Type} (make : α → Json) : Option α → Json
  | none => null
  | some value => make value

end Json

end NumberingPlan
