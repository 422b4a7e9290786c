import NumberingPlan.Yaml.Cursor
import NumberingPlan.Text.CodePoint
import NumberingPlan.Text.Hex
import NumberingPlan.Text.Utf8

/-! The tokens of a YAML text, and the reading of those that stand for themselves: directives,
anchors, aliases and tags. -/

namespace NumberingPlan.Yaml

open Text (CodePoint)

inductive Directive where
  | version (major : Nat)
  | tag (handle tagPrefix : List Char)
  | other
  deriving DecidableEq, Repr

inductive Token where
  | streamEnd
  | directive (directive : Directive)
  | documentStart
  | documentEnd
  | blockSequenceStart
  | blockMappingStart
  | blockEnd
  | flowSequenceStart
  | flowSequenceEnd
  | flowMappingStart
  | flowMappingEnd
  | blockEntry
  | flowEntry
  | key
  | value
  | alias (name : List Char)
  | anchor (name : List Char)
  | tag (handle : Option (List Char)) (suffix : List Char)
  | scalar (text : List CodePoint) (plain : Bool)
  deriving DecidableEq, Repr

namespace Token

/-- The bytes of escapes in a row, `%41%42`. -/
def escapedBytes : List Char → Except Fault (List UInt8 × List Char)
  | '%' :: a :: b :: rest =>
    if Text.isHexDigit a && Text.isHexDigit b then do
      let (bytes, rest) ← escapedBytes rest
      .ok (UInt8.ofNat (Text.hexValue [a, b]) :: bytes, rest)
    else .error (.malformed .tag)
  | '%' :: _ => .error (.malformed .tag)
  | rest => .ok ([], rest)

def isUriChar (c : Char) : Bool :=
  c.isAlphanum || "-;/?:@&=+$,_.!~*'()[]".toList.contains c

/-- The characters of a tag's suffix with escapes undone; `fuel` bounds the number of steps. -/
def uriChars : Nat → List Char → Except Fault (List Char × List Char)
  | 0, text => .ok ([], text)
  | fuel + 1, text =>
    match text with
    | '%' :: _ => do
      let (bytes, rest) ← escapedBytes text
      match Text.Utf8.decode bytes with
      | .error _ => .error (.malformed .tag)
      | .ok decoded =>
        let (more, rest) ← uriChars fuel rest
        .ok (decoded ++ more, rest)
    | c :: rest =>
      if isUriChar c then do
        let (more, rest) ← uriChars fuel rest
        .ok (c :: more, rest)
      else .ok ([], text)
    | [] => .ok ([], [])

def readUri (cursor : Cursor) : Except Fault (List Char × Cursor) := do
  let (chars, rest) ← uriChars cursor.rest.length cursor.rest
  if rest.length = cursor.rest.length then .error (.malformed .tag)
  else .ok (chars, cursor.skip (cursor.rest.length - rest.length))

/-- Reads a handle: `!`, `!!` or `!name!`. -/
def readHandle (cursor : Cursor) : Except Fault (List Char × Cursor) :=
  match cursor.rest with
  | '!' :: rest =>
    if rest.head? == some ' ' then .ok (['!'], cursor.next)
    else
      let name := rest.takeWhile isNameChar
      if rest[name.length]? == some '!' then
        .ok ('!' :: name ++ ['!'], cursor.skip (name.length + 2))
      else .error (.malformed .tag)
  | _ => .error (.malformed .tag)

def readName (cursor : Cursor) : Except Fault (List Char × Cursor) :=
  let (name, after) := cursor.next.takeWhile isNameChar
  let ends := orEnd (fun c => "?:,]\x7d%@`".toList.contains c || endsWord (some c))
  if name.isEmpty || !ends after.peek? then .error (.malformed .anchorName)
  else .ok (name, after)

/-- Reads a tag: verbatim between angle brackets, the lone mark, or a handle and a suffix. -/
def readTag (cursor : Cursor) : Except Fault (Token × Cursor) := do
  let (token, after) ←
    if cursor.peekAt? 1 == some '<' then do
      let (suffix, after) ← readUri (cursor.skip 2)
      if after.peek? == some '>' then .ok (Token.tag none suffix, after.next)
      else .error (.malformed .tag)
    else if endsWord (cursor.peekAt? 1) then .ok (Token.tag none ['!'], cursor.next)
    else do
      let word := cursor.rest.tail.takeWhile (fun c => !endsField (some c))
      let (handle, after) ←
        if word.contains '!' then readHandle cursor else .ok (['!'], cursor.next)
      let (suffix, after) ← readUri after
      .ok (Token.tag (some handle) suffix, after)
  if endsField after.peek? then .ok (token, after) else .error (.malformed .tag)

def readVersionNumber (cursor : Cursor) : Except Fault (Nat × Cursor) :=
  let (digits, after) := cursor.takeWhile Char.isDigit
  if digits.isEmpty then .error (.malformed .directive)
  else
    match Decimal.read digits with
    | .ok n => .ok (n, after)
    | .error count => .error (.value (.numeralTooLong count))

def readVersion (cursor : Cursor) : Except Fault (Directive × Cursor) := do
  let (major, after) ← readVersionNumber cursor.skipSpaces
  if after.peek? == some '.' then
    let (_, after) ← readVersionNumber after.next
    if endsField after.peek? then .ok (.version major, after)
    else .error (.malformed .directive)
  else .error (.malformed .directive)

def readTagDirective (cursor : Cursor) : Except Fault (Directive × Cursor) := do
  let (handle, after) ← readHandle cursor.skipSpaces
  if after.peek? == some ' ' then
    let (tagPrefix, after) ← readUri after.skipSpaces
    if endsField after.peek? then .ok (.tag handle tagPrefix, after)
    else .error (.malformed .directive)
  else .error (.malformed .directive)

/-- Reads a directive with its line; one of an unknown name has no effect. -/
def readDirective (cursor : Cursor) : Except Fault (Token × Cursor) := do
  let (name, after) := cursor.next.takeWhile isNameChar
  if name.isEmpty || !endsField after.peek? then .error (.malformed .directive)
  else
    let (found, after) ←
      if name == "YAML".toList then readVersion after
      else if name == "TAG".toList then readTagDirective after
      else .ok (.other, after.skipWhile (fun c => !isBreak c))
    let after ← after.restOfLine .directive
    .ok (.directive found, after)

end Token

end NumberingPlan.Yaml
