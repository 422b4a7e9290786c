import NumberingPlan.Yaml.Fault

/-! A place in a YAML text. Lines end with a line feed, the next-line control or one of the two
Unicode separators; the text has no other line ends. -/

namespace NumberingPlan.Yaml

def isBreak (c : Char) : Bool :=
  c == '\n' || c == '\x85' || c == '\u2028' || c == '\u2029'

/-- Whether there is nothing more, or a character of the class. -/
def orEnd (p : Char → Bool) : Option Char → Bool
  | none => true
  | some c => p c

/-- The end of a line or of the text. -/
def endsLine : Option Char → Bool := orEnd isBreak

/-- The end of a line or a space. -/
def endsField : Option Char → Bool := orEnd (fun c => c == ' ' || isBreak c)

/-- The end of a line, a space or a tab. -/
def endsWord : Option Char → Bool := orEnd (fun c => c == ' ' || c == '\t' || isBreak c)

/-- A letter, a digit, a hyphen or an underscore. -/
def isNameChar (c : Char) : Bool := c.isAlphanum || c == '-' || c == '_'

structure Cursor where
  rest : List Char
  index : Nat := 0
  line : Nat := 0
  column : Nat := 0

namespace Cursor

def peek? (cursor : Cursor) : Option Char := cursor.rest.head?

def peekAt? (cursor : Cursor) (offset : Nat) : Option Char := cursor.rest[offset]?

/-- A byte order mark takes no column. -/
def next (cursor : Cursor) : Cursor :=
  match cursor.rest with
  | [] => cursor
  | c :: rest =>
    if isBreak c then ⟨rest, cursor.index + 1, cursor.line + 1, 0⟩
    else ⟨rest, cursor.index + 1, cursor.line,
      if c == '\ufeff' then cursor.column else cursor.column + 1⟩

def skip (cursor : Cursor) : Nat → Cursor
  | 0 => cursor
  | count + 1 => cursor.next.skip count

def takeWhile (cursor : Cursor) (p : Char → Bool) : List Char × Cursor :=
  let taken := cursor.rest.takeWhile p
  (taken, cursor.skip taken.length)

def skipWhile (cursor : Cursor) (p : Char → Bool) : Cursor := (cursor.takeWhile p).2

def skipSpaces (cursor : Cursor) : Cursor := cursor.skipWhile (· == ' ')

/-- A comment runs to the end of its line. -/
def skipComment (cursor : Cursor) : Cursor :=
  if cursor.peek? == some '#' then cursor.skipWhile (fun c => !isBreak c) else cursor

def atBreak (cursor : Cursor) : Bool := cursor.peek?.any isBreak

/-- Takes a line break if there is one. A plain break is a line feed; a Unicode separator stays
what it is. -/
def lineBreak (cursor : Cursor) : List Char × Cursor :=
  match cursor.peek? with
  | some c =>
    if c == '\n' || c == '\x85' then (['\n'], cursor.next)
    else if isBreak c then ([c], cursor.next)
    else ([], cursor)
  | none => ([], cursor)

/-- Whether three marks of a document separator stand here, and no word goes on behind them. -/
def atSeparator (cursor : Cursor) (mark : Char) : Bool :=
  cursor.rest.take 3 == [mark, mark, mark] && endsWord (cursor.peekAt? 3)

def atDocumentEdge (cursor : Cursor) : Bool :=
  cursor.atSeparator '-' || cursor.atSeparator '.'

/-- What may stand behind a directive or the head of a block: spaces, a comment, the line's end. -/
def restOfLine (cursor : Cursor) (complaint : Complaint) : Except Fault Cursor :=
  let cursor := cursor.skipSpaces.skipComment
  if endsLine cursor.peek? then .ok cursor.lineBreak.2 else .error (.malformed complaint)

end Cursor

end NumberingPlan.Yaml
