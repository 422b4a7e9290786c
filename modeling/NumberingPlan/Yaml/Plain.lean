import NumberingPlan.Yaml.Token

/-! Scalars without quotes. They end at a comment, at the colon of a key, at the edge of their
indentation and, inside brackets, at the marks that part a collection. -/

namespace NumberingPlan.Yaml.Plain

/-- The word that stands at the beginning of a text. -/
def run (inFlow : Bool) : List Char → List Char
  | [] => []
  | c :: rest =>
    let closesKey := endsWord rest.head?
      || (inFlow && rest.head?.any (fun d => ",[]\x7b\x7d".toList.contains d))
    if endsWord (some c) || (c == ':' && closesKey)
        || (inFlow && ",?[]\x7b\x7d".toList.contains c) then []
    else c :: run inFlow rest

/-- What lies between two words: the text it stands for, whether it broke the line, and the place
behind it. -/
structure Gap where
  text : List Char
  brokeLine : Bool
  cursor : Cursor

/-- Empty lines and the indentation of the next; nothing when a document's edge is found. -/
def emptyLines : Nat → Cursor → Option (List Char) × Cursor
  | 0, cursor => (some [], cursor)
  | fuel + 1, cursor =>
    match cursor.peek? with
    | some c =>
      if c == ' ' then emptyLines fuel cursor.next
      else if isBreak c then
        let (lineBreak, cursor) := cursor.lineBreak
        if cursor.atDocumentEdge then (none, cursor)
        else
          let (more, cursor) := emptyLines fuel cursor
          (more.map (lineBreak ++ ·), cursor)
      else (some [], cursor)
    | none => (some [], cursor)

def gap (cursor : Cursor) : Gap :=
  let (blanks, cursor) := cursor.takeWhile (· == ' ')
  if cursor.atBreak then
    let (lineBreak, cursor) := cursor.lineBreak
    if cursor.atDocumentEdge then ⟨[], true, cursor⟩
    else
      match emptyLines cursor.rest.length cursor with
      | (none, cursor) => ⟨[], true, cursor⟩
      | (some breaks, cursor) =>
        let first :=
          if lineBreak != ['\n'] then lineBreak else if breaks.isEmpty then [' '] else []
        ⟨first ++ breaks, true, cursor⟩
  else ⟨blanks, false, cursor⟩

/-- Reads word after word; the gap before a word counts only when the word is there. The answer
says whether a new line was begun at the end, where a key may stand again. -/
def words (inFlow : Bool) (indent : Int) : Nat → List Char → Bool → Cursor →
    List Char × Bool × Cursor
  | 0, _, brokeLine, cursor => ([], brokeLine, cursor)
  | fuel + 1, before, brokeLine, cursor =>
    let word := if cursor.peek? == some '#' then [] else run inFlow cursor.rest
    if word.isEmpty then ([], brokeLine, cursor)
    else
      let next := gap (cursor.skip word.length)
      if next.text.isEmpty || next.cursor.peek? == some '#'
          || (!inFlow && next.cursor.column < indent) then
        (before ++ word, next.brokeLine, next.cursor)
      else
        let (more, brokeLine, cursor) :=
          words inFlow indent fuel next.text next.brokeLine next.cursor
        (before ++ word ++ more, brokeLine, cursor)

def read (inFlow : Bool) (indent : Int) (cursor : Cursor) : Token × Bool × Cursor :=
  let (text, brokeLine, cursor) := words inFlow indent (cursor.rest.length + 1) [] false cursor
  (.scalar (text.map .char) true, brokeLine, cursor)

end NumberingPlan.Yaml.Plain
