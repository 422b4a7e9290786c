import NumberingPlan.Yaml.Token

/-! Scalars in quotes. Inside double quotes a backslash begins an escape; inside single quotes a
quote is written twice. A line break inside is a space, and empty lines are breaks. -/

namespace NumberingPlan.Yaml.Quoted

open Text (CodePoint)

def escapes : List (Char × Char) :=
  [('0', '\x00'), ('a', '\x07'), ('b', '\x08'), ('t', '\t'), ('\t', '\t'), ('n', '\n'),
    ('v', '\x0b'), ('f', '\x0c'), ('r', '\r'), ('e', '\x1b'), (' ', ' '), ('"', '"'),
    ('\\', '\\'), ('/', '/'), ('N', '\x85'), ('_', '\xa0'), ('L', '\u2028'), ('P', '\u2029')]

/-- How many hexadecimal digits follow the letter of a numbered escape. -/
def escapeWidth? : Char → Option Nat
  | 'x' => some 2
  | 'u' => some 4
  | 'U' => some 8
  | _ => none

def pointOf (code : Nat) : Except ValueFault CodePoint :=
  if 0x7fffffff < code then .error .codePointTooLarge
  else if 0x10ffff < code then .error .codePoint
  else .ok (.ofNat code)

/-- Line breaks after the first, with the blanks around them dropped. A document's edge may not
stand inside quotes. -/
def breaks : Nat → Cursor → Except Fault (List Char × Cursor)
  | 0, cursor => .ok ([], cursor)
  | fuel + 1, cursor =>
    if cursor.atDocumentEdge then .error (.malformed .documentInQuote)
    else
      let cursor := cursor.skipWhile (fun c => c == ' ' || c == '\t')
      if cursor.atBreak then do
        let (lineBreak, cursor) := cursor.lineBreak
        let (more, cursor) ← breaks fuel cursor
        .ok (lineBreak ++ more, cursor)
      else .ok ([], cursor)

/-- Blanks, or what a run of line breaks stands for. -/
def spaces (cursor : Cursor) : Except Fault (List Char × Cursor) :=
  let (blanks, cursor) := cursor.takeWhile (fun c => c == ' ' || c == '\t')
  match cursor.peek? with
  | none => .error (.malformed .quoteUnclosed)
  | some c =>
    if isBreak c then do
      let (lineBreak, cursor) := cursor.lineBreak
      let (more, cursor) ← breaks (cursor.rest.length + 1) cursor
      let first := if lineBreak != ['\n'] then lineBreak else if more.isEmpty then [' '] else []
      .ok (first ++ more, cursor)
    else .ok (blanks, cursor)

/-- What an escape stands for; the cursor is behind the backslash. -/
def escape (cursor : Cursor) : Except Fault (List CodePoint × Cursor) :=
  match cursor.peek? with
  | none => .error (.malformed .escape)
  | some c =>
    match escapes.lookup c with
    | some plain => .ok ([.char plain], cursor.next)
    | none =>
      match escapeWidth? c with
      | some width =>
        let digits := cursor.next.rest.take width
        if digits.length = width && digits.all Text.isHexDigit then
          match pointOf (Text.hexValue digits) with
          | .ok point => .ok ([point], cursor.skip (width + 1))
          | .error fault => .error (.value fault)
        else .error (.malformed .escape)
      | none =>
        if isBreak c then do
          let cursor := cursor.lineBreak.2
          let (lines, cursor) ← breaks (cursor.rest.length + 1) cursor
          .ok (lines.map .char, cursor)
        else .error (.malformed .escape)

/-- The text up to the closing mark. Each step takes one character at least. -/
def content (mark : Char) : Nat → Cursor → Except Fault (List CodePoint × Cursor)
  | 0, _ => .error (.malformed .quoteUnclosed)
  | fuel + 1, cursor => do
    match cursor.peek? with
    | none => .error (.malformed .quoteUnclosed)
    | some c =>
      if c == '\'' && mark == '\'' && cursor.peekAt? 1 == some '\'' then
        let (more, cursor) ← content mark fuel (cursor.skip 2)
        .ok (.char '\'' :: more, cursor)
      else if c == mark then .ok ([], cursor.next)
      else if c == '\\' && mark == '"' then
        let (points, cursor) ← escape cursor.next
        let (more, cursor) ← content mark fuel cursor
        .ok (points ++ more, cursor)
      else if endsWord (some c) then
        let (chars, cursor) ← spaces cursor
        let (more, cursor) ← content mark fuel cursor
        .ok (chars.map .char ++ more, cursor)
      else
        let (more, cursor) ← content mark fuel cursor.next
        .ok (.char c :: more, cursor)

def read (cursor : Cursor) : Except Fault (Token × Cursor) := do
  let mark := cursor.peek?.getD '"'
  let (text, cursor) ← content mark (cursor.rest.length + 1) cursor.next
  .ok (.scalar text false, cursor)

end NumberingPlan.Yaml.Quoted
