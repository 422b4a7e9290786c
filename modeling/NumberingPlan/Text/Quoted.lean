import NumberingPlan.Text.CodePoint
import NumberingPlan.Text.Hex
import NumberingPlan.Unicode.Printable

/-! A text in quotes, as messages show it. Single quotes stand around the text unless it holds a
single quote and no double quote; characters that do not print are escaped. -/

namespace NumberingPlan.Text

def quoteMark (text : List Char) : Char :=
  if text.contains '\'' && !text.contains '"' then '"' else '\''

def quoteChar (mark c : Char) : List Char :=
  if c == mark || c == '\\' then ['\\', c]
  else if c == '\t' then ['\\', 't']
  else if c == '\n' then ['\\', 'n']
  else if c == '\r' then ['\\', 'r']
  else if Unicode.isPrintable c then [c]
  else if c.toNat ≤ 0xff then '\\' :: 'x' :: hex 2 c.toNat
  else if c.toNat ≤ 0xffff then '\\' :: 'u' :: hex 4 c.toNat
  else '\\' :: 'U' :: hex 8 c.toNat

def quotePoint (mark : Char) : CodePoint → List Char
  | .char c => quoteChar mark c
  | .surrogate value => '\\' :: 'u' :: hex 4 value

def quoted (text : List CodePoint) : List Char :=
  let mark := quoteMark (text.map CodePoint.shown)
  mark :: text.flatMap (quotePoint mark) ++ [mark]

def quote (text : String) : String :=
  String.ofList (quoted (text.toList.map .char))

/-- At most `limit` characters of a quoted text. -/
def quoteWithin (limit : Nat) (text : List CodePoint) : String :=
  String.ofList ((quoted text).take limit)

end NumberingPlan.Text
