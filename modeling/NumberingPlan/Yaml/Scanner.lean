import NumberingPlan.Yaml.Block
import NumberingPlan.Yaml.Plain
import NumberingPlan.Yaml.Quoted

/-! From a YAML text to its tokens. Blocks are found by their indentation. Whether a token begins a
key shows only at the colon behind it, so the place of every token that may be a key is kept until
its line ends, and the mark of the key is put in front of it afterwards. -/

namespace NumberingPlan.Yaml

/-- A token that may turn out to be a key, by its place among the tokens. One at the block's own
indentation must turn out so. -/
structure PendingKey where
  level : Nat
  place : Nat
  required : Bool
  index : Nat
  line : Nat
  column : Nat

/-- The tokens of a text, as far as they can be read, and the fault that lies behind them. It counts
only for a reader that asks for more than those. -/
structure Tokens where
  ready : List Token
  fault : Option Fault

structure Scanner where
  cursor : Cursor
  tokens : Array Token := #[]
  level : Nat := 0
  indent : Int := -1
  outer : List Int := []
  keyAllowed : Bool := true
  pending : List PendingKey := []

namespace Scanner

/-- A key has at most so many characters. -/
def maxKeyLength : Nat := 1024

def push (scanner : Scanner) (token : Token) : Scanner :=
  { scanner with tokens := scanner.tokens.push token }

def inFlow (scanner : Scanner) : Bool := scanner.level != 0

/-- Skips blanks, comments and line breaks; a key may stand at the beginning of a block's line. -/
def skipBlanks : Nat → Scanner → Scanner
  | 0, scanner => scanner
  | fuel + 1, scanner =>
    let cursor := scanner.cursor.skipSpaces.skipComment
    if cursor.atBreak then
      skipBlanks fuel { scanner with
        cursor := cursor.lineBreak.2
        keyAllowed := scanner.keyAllowed || !scanner.inFlow }
    else { scanner with cursor }

/-- Gives up the keys whose line has ended. -/
def dropStale (scanner : Scanner) : Except Fault Scanner :=
  let stale (key : PendingKey) : Bool :=
    key.line != scanner.cursor.line || decide (scanner.cursor.index - key.index > maxKeyLength)
  if scanner.pending.any (fun key => stale key && key.required) then
    .error (.malformed .keyWithoutColon)
  else .ok { scanner with pending := scanner.pending.filter (fun key => !stale key) }

def pendingHere? (scanner : Scanner) : Option PendingKey :=
  scanner.pending.find? (·.level == scanner.level)

def dropHere (scanner : Scanner) : Scanner :=
  { scanner with pending := scanner.pending.filter (·.level != scanner.level) }

/-- Gives up the key of this level. -/
def refuseKey (scanner : Scanner) : Except Fault Scanner :=
  if scanner.pendingHere?.any (·.required) then .error (.malformed .keyWithoutColon)
  else .ok scanner.dropHere

/-- Keeps the place of the next token if a key may stand here. -/
def keepKey (scanner : Scanner) : Except Fault Scanner :=
  if scanner.keyAllowed then do
    let scanner ← scanner.refuseKey
    let cursor := scanner.cursor
    let key : PendingKey :=
      { level := scanner.level, place := scanner.tokens.size, index := cursor.index,
        line := cursor.line, column := cursor.column,
        required := !scanner.inFlow && scanner.indent == cursor.column }
    .ok { scanner with pending := key :: scanner.pending }
  else .ok scanner

/-- Ends the blocks that are indented deeper than a column. -/
def closeBlocks (column : Int) : List Int → Scanner → Scanner
  | [], scanner => scanner
  | next :: outer, scanner =>
    if column < scanner.indent then
      closeBlocks column outer ({ scanner with indent := next, outer }.push .blockEnd)
    else scanner

def unwind (scanner : Scanner) (column : Int) : Scanner :=
  if scanner.inFlow then scanner else closeBlocks column scanner.outer scanner

/-- Opens a block at a column that is deeper than the one around it, its mark going to a place
among the tokens. -/
def openBlock (scanner : Scanner) (column : Nat) (place : Nat) (mark : Token) : Scanner :=
  if scanner.indent < column then
    { scanner with
      indent := column
      outer := scanner.indent :: scanner.outer
      tokens := scanner.tokens.insertIdxIfInBounds place mark }
  else scanner

def openBlockHere (scanner : Scanner) (mark : Token) : Scanner :=
  scanner.openBlock scanner.cursor.column scanner.tokens.size mark

def advance (scanner : Scanner) (count : Nat) : Scanner :=
  { scanner with cursor := scanner.cursor.skip count }

def allowKey (scanner : Scanner) (allowed : Bool) : Scanner :=
  { scanner with keyAllowed := allowed }

def streamEnd (scanner : Scanner) : Except Fault Scanner := do
  let scanner ← (scanner.unwind (-1)).refuseKey
  .ok (scanner.push .streamEnd)

def readDirective (scanner : Scanner) : Except Fault Scanner := do
  let scanner ← (scanner.unwind (-1)).refuseKey
  let (token, cursor) ← Token.readDirective scanner.cursor
  .ok (({ scanner with cursor }.allowKey false).push token)

def documentMark (scanner : Scanner) (token : Token) : Except Fault Scanner := do
  let scanner ← (scanner.unwind (-1)).refuseKey
  .ok (((scanner.allowKey false).advance 3).push token)

def flowStart (scanner : Scanner) (token : Token) : Except Fault Scanner := do
  let scanner ← scanner.keepKey
  .ok ((({ scanner with level := scanner.level + 1 }.allowKey true).advance 1).push token)

def flowEnd (scanner : Scanner) (token : Token) : Except Fault Scanner := do
  let scanner ← scanner.refuseKey
  .ok ((({ scanner with level := scanner.level - 1 }.allowKey false).advance 1).push token)

def flowEntry (scanner : Scanner) : Except Fault Scanner := do
  let scanner ← scanner.refuseKey
  .ok (((scanner.allowKey true).advance 1).push .flowEntry)

def blockEntry (scanner : Scanner) : Except Fault Scanner := do
  if !scanner.inFlow && !scanner.keyAllowed then .error (.malformed .sequenceEntry)
  else
    let scanner :=
      if scanner.inFlow then scanner else scanner.openBlockHere .blockSequenceStart
    let scanner ← scanner.refuseKey
    .ok (((scanner.allowKey true).advance 1).push .blockEntry)

def explicitKey (scanner : Scanner) : Except Fault Scanner := do
  if !scanner.inFlow && !scanner.keyAllowed then .error (.malformed .mappingKey)
  else
    let scanner := if scanner.inFlow then scanner else scanner.openBlockHere .blockMappingStart
    let scanner ← scanner.refuseKey
    .ok (((scanner.allowKey (!scanner.inFlow)).advance 1).push .key)

/-- A colon: what was kept before it is a key, else it begins the value of an explicit key. -/
def keyValue (scanner : Scanner) : Except Fault Scanner := do
  match scanner.pendingHere? with
  | some key =>
    let scanner := scanner.dropHere
    let tokens := scanner.tokens.insertIdxIfInBounds key.place .key
    let scanner := { scanner with tokens }
    let scanner :=
      if scanner.inFlow then scanner else scanner.openBlock key.column key.place .blockMappingStart
    .ok (((scanner.allowKey false).advance 1).push .value)
  | none =>
    if !scanner.inFlow && !scanner.keyAllowed then .error (.malformed .mappingValue)
    else
      let scanner := if scanner.inFlow then scanner else scanner.openBlockHere .blockMappingStart
      let scanner ← (scanner.allowKey (!scanner.inFlow)).refuseKey
      .ok ((scanner.advance 1).push .value)

/-- A token that may begin a key, read by a function of its own. -/
def simple (scanner : Scanner) (read : Cursor → Except Fault (Token × Cursor)) :
    Except Fault Scanner := do
  let scanner ← scanner.keepKey
  let (token, cursor) ← read scanner.cursor
  .ok (({ scanner with cursor }.allowKey false).push token)

def named (make : List Char → Token) (cursor : Cursor) : Except Fault (Token × Cursor) := do
  let (name, cursor) ← Token.readName cursor
  .ok (make name, cursor)

def blockScalar (scanner : Scanner) : Except Fault Scanner := do
  let scanner ← (scanner.allowKey true).refuseKey
  let (token, cursor) ← Block.read scanner.indent scanner.cursor
  .ok ({ scanner with cursor }.push token)

def plainScalar (scanner : Scanner) : Except Fault Scanner := do
  let scanner ← scanner.keepKey
  let (token, keyAllowed, cursor) :=
    Plain.read scanner.inFlow (scanner.indent + 1) scanner.cursor
  .ok ({ scanner with cursor, keyAllowed }.push token)

/-- Characters that begin no scalar without quotes. -/
def isIndicator (c : Char) : Bool := "-?:,[]\x7b\x7d#&*!|>'\"%@`".toList.contains c

def startsPlain (inFlow : Bool) (c : Char) (following : Option Char) : Bool :=
  !(endsWord (some c) || isIndicator c)
    || (!endsWord following && (c == '-' || (!inFlow && (c == '?' || c == ':'))))

/-- Reads the next token. -/
def step (scanner : Scanner) (c : Char) : Except Fault Scanner :=
  let cursor := scanner.cursor
  let following := cursor.peekAt? 1
  let flow := scanner.inFlow
  if c == '%' && cursor.column == 0 then scanner.readDirective
  else if cursor.column == 0 && cursor.atSeparator '-' then scanner.documentMark .documentStart
  else if cursor.column == 0 && cursor.atSeparator '.' then scanner.documentMark .documentEnd
  else if c == '[' then scanner.flowStart .flowSequenceStart
  else if c == '\x7b' then scanner.flowStart .flowMappingStart
  else if c == ']' then scanner.flowEnd .flowSequenceEnd
  else if c == '\x7d' then scanner.flowEnd .flowMappingEnd
  else if c == ',' then scanner.flowEntry
  else if c == '-' && endsWord following then scanner.blockEntry
  else if c == '?' && (flow || endsWord following) then scanner.explicitKey
  else if c == ':' && (flow || endsWord following) then scanner.keyValue
  else if c == '*' then scanner.simple (named .alias)
  else if c == '&' then scanner.simple (named .anchor)
  else if c == '!' then scanner.simple Token.readTag
  else if (c == '|' || c == '>') && !flow then scanner.blockScalar
  else if c == '\'' || c == '"' then scanner.simple Quoted.read
  else if startsPlain flow c following then scanner.plainScalar
  else .error (.malformed .token)

/-- The tokens that no key can come before any more: those up to the first pending key. -/
def settled (scanner : Scanner) : List Token :=
  match scanner.dropStale with
  | .error _ => []
  | .ok scanner =>
    scanner.tokens.toList.take
      ((scanner.pending.map (·.place)).foldl min scanner.tokens.size)

/-- Reads on to the next token; the text's end is the last one. -/
def advanceToken (scanner : Scanner) : Except Fault (Scanner × Bool) := do
  let scanner ← (skipBlanks (scanner.cursor.rest.length + 1) scanner).dropStale
  let scanner := scanner.unwind scanner.cursor.column
  match scanner.cursor.peek? with
  | none => return (← scanner.streamEnd, true)
  | some c => return (← scanner.step c, false)

/-- Reads all tokens. Each takes a character at least, so their number is bounded by `fuel`. -/
def run : Nat → Scanner → Tokens
  | 0, scanner => ⟨scanner.settled, none⟩
  | fuel + 1, scanner =>
    match scanner.advanceToken with
    | .error fault => ⟨scanner.settled, some fault⟩
    | .ok (scanner, true) => ⟨scanner.tokens.toList, none⟩
    | .ok (scanner, false) => run fuel scanner

end Scanner

/-- A character that a text may hold. -/
def isPermitted (c : Char) : Bool :=
  let n := c.toNat
  c == '\t' || c == '\n' || c == '\r' || (0x20 ≤ n && n ≤ 0x7e) || n == 0x85
    || (0xa0 ≤ n && n ≤ 0xd7ff) || (0xe000 ≤ n && n ≤ 0xfffd) || 0x10000 ≤ n

/-- The tokens of a text, the last of which is its end. A byte order mark may stand first. -/
def tokens (text : List Char) : Tokens :=
  if text.all isPermitted then
    let cursor : Cursor := { rest := text }
    let cursor := if cursor.peek? == some '\ufeff' then cursor.next else cursor
    Scanner.run (text.length + 1) { cursor }
  else ⟨[], some (.malformed .unprintable)⟩

end NumberingPlan.Yaml
