import NumberingPlan.Yaml.Token

/-! Block scalars: the lines below their head that are indented deeper. A literal scalar keeps its
line breaks, a folded one makes spaces of those between lines of text. -/

namespace NumberingPlan.Yaml.Block

/-- What becomes of the line breaks at the end. -/
inductive Chomp where
  | strip
  | clip
  | keep
  deriving DecidableEq, Repr

structure Head where
  chomp : Chomp := .clip
  indent : Option Nat := none

def chomp? : Option Char → Option Chomp
  | some '+' => some .keep
  | some '-' => some .strip
  | _ => none

/-- The indentation that a head asks for, one to nine. -/
def readIndent (cursor : Cursor) : Except Fault (Option Nat × Cursor) :=
  match cursor.peek? with
  | some c =>
    if c == '0' then .error (.malformed .blockHeader)
    else if c.isDigit then .ok (some (c.toNat - '0'.toNat), cursor.next)
    else .ok (none, cursor)
  | none => .ok (none, cursor)

/-- The signs of a head, in either order. -/
def readHead (cursor : Cursor) : Except Fault (Head × Cursor) := do
  let (head, cursor) ← match chomp? cursor.peek? with
    | some chomp => do
      let (indent, cursor) ← readIndent cursor.next
      .ok (({ chomp, indent } : Head), cursor)
    | none => do
      let (indent, cursor) ← readIndent cursor
      match indent, chomp? cursor.peek? with
      | some indent, some chomp => .ok (({ chomp, indent := some indent } : Head), cursor.next)
      | indent, _ => .ok (({ indent } : Head), cursor)
  if endsField cursor.peek? then
    let cursor ← cursor.restOfLine .blockHeader
    .ok (head, cursor)
  else .error (.malformed .blockHeader)

/-- Skips spaces up to a column. -/
def indentTo (column : Nat) (cursor : Cursor) : Cursor :=
  cursor.skip (min (column - cursor.column) (cursor.rest.takeWhile (· == ' ')).length)

/-- Empty lines at the beginning and the deepest indentation among them. -/
def findIndent : Nat → Cursor → Nat → List Char × Nat × Cursor
  | 0, cursor, deepest => ([], deepest, cursor)
  | fuel + 1, cursor, deepest =>
    match cursor.peek? with
    | some c =>
      if c == ' ' then findIndent fuel cursor.next (max deepest cursor.next.column)
      else if isBreak c then
        let (lineBreak, cursor) := cursor.lineBreak
        let (more, deepest, cursor) := findIndent fuel cursor deepest
        (lineBreak ++ more, deepest, cursor)
      else ([], deepest, cursor)
    | none => ([], deepest, cursor)

/-- The breaks of empty lines, then the indentation of the next line. -/
def breaks (indent : Nat) : Nat → Cursor → List Char × Cursor
  | 0, cursor => ([], cursor)
  | fuel + 1, cursor =>
    let cursor := indentTo indent cursor
    if cursor.atBreak then
      let (lineBreak, cursor) := cursor.lineBreak
      let (more, cursor) := breaks indent fuel cursor
      (lineBreak ++ more, cursor)
    else ([], cursor)

def atBlank (cursor : Cursor) : Bool := cursor.peek?.any (fun c => c == ' ' || c == '\t')

/-- The lines of a scalar: its text without the breaks at its end, the last line's own break, and
those of empty lines behind it. -/
def lines (folded : Bool) (indent : Nat) : Nat → List Char → Cursor →
    List Char × List Char × List Char × Cursor
  | 0, before, cursor => ([], [], before, cursor)
  | fuel + 1, before, cursor =>
    if cursor.column == indent && cursor.peek?.isSome then
      let startsBlank := atBlank cursor
      let (line, cursor) := cursor.takeWhile (fun c => !isBreak c)
      let (lineBreak, cursor) := cursor.lineBreak
      let (after, cursor) := breaks indent (cursor.rest.length + 1) cursor
      if cursor.column == indent && cursor.peek?.isSome then
        let joint :=
          if folded && lineBreak == ['\n'] && !startsBlank && !atBlank cursor then
            if after.isEmpty then [' '] else []
          else lineBreak
        let (text, lastBreak, last, cursor) := lines folded indent fuel after cursor
        (before ++ line ++ joint ++ text, lastBreak, last, cursor)
      else (before ++ line, lineBreak, after, cursor)
    else ([], [], before, cursor)

/-- Reads a block scalar from its sign on; `outer` is the indentation around it. -/
def read (outer : Int) (cursor : Cursor) : Except Fault (Token × Cursor) := do
  let folded := cursor.peek? == some '>'
  let (head, cursor) ← readHead cursor.next
  let least := max 1 (outer + 1).toNat
  let (first, indent, cursor) := match head.indent with
    | some extra =>
      let indent := least + extra - 1
      let (first, cursor) := breaks indent (cursor.rest.length + 1) cursor
      (first, indent, cursor)
    | none =>
      let (first, deepest, cursor) := findIndent (cursor.rest.length + 1) cursor 0
      (first, max least deepest, cursor)
  let (text, lastBreak, last, cursor) :=
    lines folded indent (cursor.rest.length + 1) first cursor
  let ending := match head.chomp with
    | .strip => []
    | .clip => lastBreak
    | .keep => lastBreak ++ last
  .ok (.scalar ((text ++ ending).map .char) false, cursor)

end NumberingPlan.Yaml.Block
