import NumberingPlan.Pattern.Node
import NumberingPlan.Pattern.Token
import NumberingPlan.Text.Integer
import NumberingPlan.Unicode.Name
import NumberingPlan.Unicode.Identifier
import NumberingPlan.Unicode.Letter

/-! Reading a regular expression. The reader stands before a token and sees it; stepping past a
token looks at the next one, so a backslash without a character is found as soon as the token
before it is passed. Groups are numbered in the order of their opening brackets and remember
their width once they are closed. -/

namespace NumberingPlan.Pattern

structure State where
  ahead : List Token
  finish : Nat
  dangling : Bool
  flags : List Char := []
  names : List (String × Nat) := []
  groups : List (Option Width) := []
  lookbehindFrom : Option Nat := none
  forward : List (Nat × Nat) := []

abbrev Reader := StateT State (Except Fault)

namespace Reader

/-- The position of the token ahead, or of the end. -/
def place : Reader Nat := do
  let state ← get
  match state.ahead with
  | token :: _ => pure token.start
  | [] => pure state.finish

def failAt {α : Type} (complaint : Complaint) (position : Nat) : Reader α :=
  throw (.malformed complaint (some position))

/-- Refuses what was read last: the complaint is placed `back` characters before the reader. -/
def fail {α : Type} (complaint : Complaint) (back : Nat) : Reader α := do
  failAt complaint ((← place) - back)

/-- Refuses to stand at a backslash that escapes nothing. -/
def settle : Reader Unit := do
  let state ← get
  if state.ahead.isEmpty && state.dangling then
    failAt .danglingEscape (state.finish - 1)

def peek : Reader (Option Lexeme) := do
  return (← get).ahead.head?.map (·.lexeme)

def next : Reader (Option Lexeme) := do
  let lexeme ← peek
  modify fun state => { state with ahead := state.ahead.tail }
  settle
  return lexeme

/-- Passes the character if it is ahead. -/
def accept (c : Char) : Reader Bool := do
  if (← peek) == some (.plain c) then
    let _ ← next
    return true
  else
    return false

/-- At most `count` single characters that satisfy `p`. -/
def takeWhile (p : Char → Bool) : Nat → Reader (List Char)
  | 0 => pure []
  | count + 1 => do
    match ← peek with
    | some (.plain c) =>
      if p c then
        let _ ← next
        return c :: (← takeWhile p count)
      else
        return []
    | _ => return []

/-- All single characters ahead that satisfy `p`. -/
def takeAll (p : Char → Bool) : Reader (List Char) := do
  takeWhile p (← get).ahead.length

/-- The text up to the closing character, which is passed too; `fuel` bounds the tokens left. -/
def nameTail (closing : Char) (what : String) (read : List Char) : Nat → Reader (List Char)
  | 0 => fail (.missingName what) 0
  | fuel + 1 => do
    match ← next with
    | none =>
      if read.isEmpty then fail (.missingName what) 0
      else fail (.unterminatedName closing) read.length
    | some lexeme =>
      if lexeme = .plain closing then
        if read.isEmpty then fail (.missingName what) 1 else return read
      else
        nameTail closing what (read ++ lexeme.chars) fuel

def name (closing : Char) (what : String) : Reader (List Char) := do
  nameTail closing what [] ((← get).ahead.length + 1)

/-- Refuses a group name that is no identifier. -/
def checkName (text : List Char) : Reader Unit := do
  if !Unicode.isIdentifier text then
    fail (.badGroupName (String.ofList text)) (text.length + 1)

def closed (group : Nat) : Reader Bool := do
  return match (← get).groups[group - 1]? with
    | some (some _) => 0 < group
    | _ => false

/-- Inside a part that looks behind, only groups closed before it can be referred to. -/
def checkLookbehind (group : Nat) : Reader Unit := do
  match (← get).lookbehindFrom with
  | none => pure ()
  | some bound =>
    if !(← closed group) then fail .openGroup 0
    if bound ≤ group then fail .sameLookbehind 0

def reference (group : Nat) : Reader Node := do
  match (← get).groups[group - 1]? with
  | some (some width) => return .reference width
  | _ => return .reference .zero

/-- Numbers a new group. -/
def openGroup (label : Option (List Char)) : Reader Nat := do
  let state ← get
  let group := state.groups.length + 1
  let state := { state with groups := state.groups ++ [none] }
  match label with
  | none => set state
  | some text =>
    let key := String.ofList text
    match state.names.lookup key with
    | some earlier => fail (.redefinedName key group earlier) (text.length + 1)
    | none => set { state with names := (key, group) :: state.names }
  return group

def closeGroup (group : Nat) (width : Width) : Reader Unit :=
  modify fun state => { state with groups := state.groups.set (group - 1) (some width) }

def hasFlag (flag : Char) : Reader Bool := do
  return (← get).flags.contains flag

end Reader

open Reader

/-- What one escape or one character of a set stands for. -/
inductive Atom where
  | literal (codePoint : Nat)
  | category
  | anchor
  | reference (node : Node)

def isAsciiLetter (c : Char) : Bool :=
  ('a' ≤ c && c ≤ 'z') || ('A' ≤ c && c ≤ 'Z')

def simpleEscape? : Char → Option Nat
  | 'a' => some 7
  | 'b' => some 8
  | 'f' => some 12
  | 'n' => some 10
  | 'r' => some 13
  | 't' => some 9
  | 'v' => some 11
  | '\\' => some 92
  | _ => none

def isCategory (c : Char) : Bool := "dDsSwW".contains c

/-- Exactly `count` hexadecimal digits after the escape. -/
def hexDigits (c : Char) (count : Nat) : Reader (List Char) := do
  let digits ← takeWhile Text.isHexDigit count
  if digits.length = count then
    return digits
  else
    let text := '\\' :: c :: digits
    fail (.incompleteEscape (String.ofList text)) text.length

def hexEscape (c : Char) (count : Nat) : Reader Nat := do
  return Text.hexValue (← hexDigits c count)

/-- A code point that may be too large to be one. -/
def longEscape : Reader Nat := do
  let digits ← hexDigits 'U' 8
  let codePoint := Text.hexValue digits
  if codePoint < 0x110000 then
    return codePoint
  else if Nat.pow 2 31 ≤ codePoint then
    throw .codePointTooLarge
  else
    let text := '\\' :: 'U' :: digits
    fail (.badEscape (String.ofList text)) text.length

def namedEscape : Reader Nat := do
  if !(← accept '\x7b') then fail .missingBrace 0
  let text ← name '\x7d' "character name"
  match Unicode.named? text with
  | some codePoint => return codePoint
  | none => fail (.undefinedCharacter (String.ofList text)) (text.length + 4)

/-- An escape that names one character by its number or its name. -/
def numberedEscape? (c : Char) : Option (Reader Nat) :=
  match c with
  | 'x' => some (hexEscape 'x' 2)
  | 'u' => some (hexEscape 'u' 4)
  | 'U' => some longEscape
  | 'N' => some namedEscape
  | _ => none

def octal (digits : List Char) : Reader Nat := do
  let value := Text.octalValue digits
  if value ≤ 255 then
    return value
  else
    let text := '\\' :: digits
    fail (.octalTooLarge (String.ofList text)) text.length

/-- A letter without a meaning cannot be escaped; any other character stands for itself. -/
def selfEscape (c : Char) : Reader Atom := do
  if isAsciiLetter c then fail (.badEscape (String.ofList ['\\', c])) 2
  return .literal c.toNat

/-- An escape inside a set. -/
def setEscape (c : Char) : Reader Atom := do
  if let some codePoint := simpleEscape? c then return .literal codePoint
  if isCategory c then return .category
  if let some read := numberedEscape? c then return .literal (← read)
  if Text.isOctalDigit c then
    return .literal (← octal (c :: (← takeWhile Text.isOctalDigit 2)))
  if c.isDigit then fail (.badEscape (String.ofList ['\\', c])) 2
  selfEscape c

/-- Digits after a backslash: three octal digits are a character, the rest refer to a group. -/
def digitEscape (c : Char) : Reader Atom := do
  let second ← takeWhile Char.isDigit 1
  if Text.isOctalDigit c && second.any Text.isOctalDigit then
    let third ← takeWhile Text.isOctalDigit 1
    if !third.isEmpty then return .literal (← octal (c :: second ++ third))
  let digits := c :: second
  let group := Decimal.value digits
  if group ≤ (← get).groups.length then
    if !(← closed group) then fail .openGroup (digits.length + 1)
    checkLookbehind group
    return .reference (← reference group)
  else
    fail (.invalidReference group) digits.length

/-- An escape outside of sets. -/
def escape (c : Char) : Reader Atom := do
  if "AbBZ".contains c then return .anchor
  if isCategory c then return .category
  if let some codePoint := simpleEscape? c then return .literal codePoint
  if let some read := numberedEscape? c then return .literal (← read)
  if c = '0' then
    return .literal (← octal (c :: (← takeWhile Text.isOctalDigit 2)))
  if c.isDigit then digitEscape c else selfEscape c

def Atom.node : Atom → Node
  | literal _ | category => .character
  | anchor => .anchor
  | reference node => node

def setAtom : Lexeme → Reader Atom
  | .plain c => return .literal c.toNat
  | .escaped c => setEscape c

/-- A set whose bracket was opened at `here`; a closing bracket that stands first is a member. -/
def setTail (here : Nat) (first : Bool) : Nat → Reader Node
  | 0 => failAt .unterminatedSet here
  | fuel + 1 => do
    match ← next with
    | none => failAt .unterminatedSet here
    | some low =>
      if low = .plain ']' && !first then return .character
      let lowAtom ← setAtom low
      if !(← accept '-') then return ← setTail here false fuel
      match ← next with
      | none => failAt .unterminatedSet here
      | some high =>
        if high = .plain ']' then return .character
        let highAtom ← setAtom high
        let complaint := Complaint.badRange low.text high.text
        let back := low.chars.length + 1 + high.chars.length
        match lowAtom, highAtom with
        | .literal a, .literal b =>
          if b < a then fail complaint back
          setTail here false fuel
        | _, _ => fail complaint back

def readSet (here : Nat) : Reader Node := do
  let _ ← accept '^'
  setTail here true ((← get).ahead.length + 1)

/-- A number of repetitions. -/
def repeatCount (digits : List Char) : Reader Nat :=
  match Decimal.read digits with
  | .error count => throw (.numeralTooLong count)
  | .ok count => if maxRepeat ≤ count then throw .repeatTooLarge else return count

/-- The bounds after an opening brace, or `none` when the brace stands for itself. -/
def repeatBounds : Reader (Option (Nat × Option Nat)) := do
  if (← peek) == some (.plain '\x7d') then return none
  let here ← place
  let before := (← get).ahead
  let low ← takeAll Char.isDigit
  let high ← if ← accept ',' then takeAll Char.isDigit else pure low
  if !(← accept '\x7d') then
    modify fun state => { state with ahead := before }
    settle
    return none
  let least ← if low.isEmpty then pure 0 else repeatCount low
  let most ← if high.isEmpty then pure none else some <$> repeatCount high
  if let some count := most then
    if count < least then failAt .emptyRepeatRange here
  return some (least, most)

/-- Puts the repetition in place of the node read last. -/
def repeatLast (start : Nat) (low : Nat) (high : Option Nat) (read : List Node) :
    Reader (List Node) := do
  match read with
  | [] | .anchor :: _ => failAt .nothingToRepeat start
  | .repeated .. :: _ => failAt .multipleRepeat start
  | node :: rest =>
    if ← accept '?' then return .repeated .least low high node :: rest
    if ← accept '+' then return .repeated .possessive low high node :: rest
    return .repeated .most low high node :: rest

def isFlag (c : Char) : Bool := "iLmsxatu".contains c

def isTextFlag (c : Char) : Bool := "aLu".contains c

def flagComplaint (lexeme : Lexeme) (otherwise : Complaint) : Complaint :=
  match lexeme with
  | .plain c => if Unicode.isLetter c then .unknownFlag else otherwise
  | .escaped _ => otherwise

/-- Flags to switch on, up to one of `)`, `-` and `:`, which is given too. -/
def flagsOn (on : List Char) (flag : Char) : Nat → Reader (List Char × Char)
  | 0 => fail .missingFlagEnd 0
  | fuel + 1 => do
    if flag = 'L' then fail .localeFlag 0
    let on := flag :: on
    if isTextFlag flag && on.any (fun other => isTextFlag other && other != flag) then
      fail .incompatibleFlags 0
    match ← next with
    | none => fail .missingFlagEnd 0
    | some (.plain c) =>
      if c = ')' || c = '-' || c = ':' then return (on, c)
      if isFlag c then flagsOn on c fuel
      else fail (flagComplaint (.plain c) .missingFlagEnd) 1
    | some lexeme => fail .missingFlagEnd lexeme.chars.length

/-- Flags to switch off, up to the colon. -/
def flagsOff (off : List Char) (flag : Char) : Nat → Reader (List Char)
  | 0 => fail .missingColon 0
  | fuel + 1 => do
    if isTextFlag flag then fail .textFlagOff 0
    let off := flag :: off
    match ← next with
    | none => fail .missingColon 0
    | some lexeme =>
      match lexeme with
      | .plain ':' => return off
      | .plain c =>
        if isFlag c then flagsOff off c fuel
        else fail (flagComplaint lexeme .missingColon) 1
      | .escaped _ => fail .missingColon 2

/-- The flags of a group: those switched on and off inside it, or `none` when they hold for the
whole expression. -/
def readFlags (first : Char) : Reader (Option (List Char × List Char)) := do
  let fuel := (← get).ahead.length + 1
  let (on, stop) ← if first = '-' then pure ([], '-') else flagsOn [] first fuel
  if stop = ')' then
    modify fun state => { state with flags := state.flags ++ on }
    return none
  if on.contains 't' then fail .globalFlagOn 1
  let off ← if stop = '-' then
      match ← next with
      | none => fail .missingFlag 0
      | some lexeme =>
        match lexeme with
        | .plain c =>
          if isFlag c then flagsOff [] c fuel
          else fail (flagComplaint lexeme .missingFlag) 1
        | .escaped _ => fail .missingFlag 2
    else pure []
  if off.contains 't' then fail .globalFlagOff 1
  if on.any off.contains then fail .flagOnAndOff 1
  return some (on, off)

/-- Passes a comment whose bracket was opened at `start`. -/
def skipComment (start : Nat) : Nat → Reader Unit
  | 0 => failAt .unterminatedComment start
  | fuel + 1 => do
    match ← peek with
    | none => failAt .unterminatedComment start
    | some lexeme =>
      let _ ← next
      if lexeme = .plain ')' then return () else skipComment start fuel

/-- Passes the rest of a line. -/
def skipLine : Nat → Reader Unit
  | 0 => pure ()
  | fuel + 1 => do
    match ← next with
    | none => pure ()
    | some lexeme => if lexeme = .plain '\n' then pure () else skipLine fuel

/-- The group that a condition asks for, by name or by number. -/
def conditionGroup : Reader Nat := do
  let text ← name ')' "group name"
  let back := text.length + 1
  let shown := String.ofList text
  if Unicode.isIdentifier text then
    match (← get).names.lookup shown with
    | some group => return group
    | none => fail (.unknownGroupName shown) back
  else
    match Integer.read text with
    | .ok (.ofNat 0) => fail .badGroupNumber back
    | .ok (.ofNat group) =>
      if Nat.pow 2 31 - 1 ≤ group then fail (.invalidReference group) back
      let here ← place
      modify fun state =>
        if state.forward.any (·.1 == group) then state
        else { state with forward := state.forward ++ [(group, here - back)] }
      return group
    | _ => fail (.badGroupName shown) back

def closeBracket (start : Nat) : Reader Unit := do
  if !(← accept ')') then failAt .unterminatedGroup start

/-- How a group that begins with a question mark goes on. -/
inductive Opening where
  | capture (label : Option (List Char))
  | plain (on off : List Char)
  | look (behind : Bool)
  | condition
  | done (node : Option Node)
  | globalFlags

def readOpening (start : Nat) : Reader Opening := do
  match ← next with
  | none => fail .unexpectedEnd 0
  | some (.escaped c) => fail (.unknownExtension (String.ofList ['\\', c])) 3
  | some (.plain c) =>
    match c with
    | 'P' =>
      if ← accept '<' then
        let label ← name '>' "group name"
        checkName label
        return .capture (some label)
      else if ← accept '=' then
        let label ← name ')' "group name"
        checkName label
        let shown := String.ofList label
        match (← get).names.lookup shown with
        | none => fail (.unknownGroupName shown) (label.length + 1)
        | some group =>
          if !(← closed group) then fail .openGroup (label.length + 1)
          checkLookbehind group
          return .done (some (← reference group))
      else
        match ← next with
        | none => fail .unexpectedEnd 0
        | some lexeme =>
          fail (.unknownExtension ("P" ++ lexeme.text)) (lexeme.chars.length + 2)
    | ':' => return .plain [] []
    | '>' => return .plain [] []
    | '#' =>
      skipComment start ((← get).ahead.length + 1)
      return .done none
    | '=' | '!' => return .look false
    | '<' =>
      match ← next with
      | none => fail .unexpectedEnd 0
      | some lexeme =>
        if lexeme = .plain '=' || lexeme = .plain '!' then return .look true
        fail (.unknownExtension ("<" ++ lexeme.text)) (lexeme.chars.length + 2)
    | '(' => return .condition
    | _ =>
      if isFlag c || c = '-' then
        match ← readFlags c with
        | none => return .globalFlags
        | some (on, off) => return .plain on off
      else
        fail (.unknownExtension (String.ofList [c])) 2

mutual

/-- Alternatives up to a closing bracket or the end. -/
def alternatives (fuel : Nat) (verbose top first : Bool) : Reader Node :=
  match fuel with
  | 0 => fail .unbalanced 0
  | fuel + 1 => do
    let option ← sequence fuel verbose (top && first) []
    if ← accept '|' then
      let verbose ← if top then hasFlag 'x' else pure verbose
      return .either option (← alternatives fuel verbose top false)
    else
      return option

/-- Neighbouring parts up to a bar, a closing bracket or the end; `read` holds those already
read, the last one first. -/
def sequence (fuel : Nat) (verbose first : Bool) (read : List Node) : Reader Node :=
  match fuel with
  | 0 => fail .unbalanced 0
  | fuel + 1 => do
    let start ← place
    match ← peek with
    | none => return Node.ofList read.reverse
    | some (.escaped c) =>
      let _ ← next
      let atom ← escape c
      sequence fuel verbose first (atom.node :: read)
    | some (.plain c) =>
      if c = '|' || c = ')' then return Node.ofList read.reverse
      let _ ← next
      if verbose && (c == ' ' || (9 ≤ c.toNat && c.toNat ≤ 13)) then
        sequence fuel verbose first read
      else if verbose && c == '#' then
        skipLine ((← get).ahead.length + 1)
        sequence fuel verbose first read
      else
        match c with
        | '[' =>
          let node ← readSet start
          sequence fuel verbose first (node :: read)
        | '?' => sequence fuel verbose first (← repeatLast start 0 (some 1) read)
        | '*' => sequence fuel verbose first (← repeatLast start 0 none read)
        | '+' => sequence fuel verbose first (← repeatLast start 1 none read)
        | '\x7b' =>
          match ← repeatBounds with
          | none => sequence fuel verbose first (.character :: read)
          | some (low, high) => sequence fuel verbose first (← repeatLast start low high read)
        | '(' =>
          match ← group fuel verbose start with
          | .inl node => sequence fuel verbose first (node.toList ++ read)
          | .inr () =>
            if first && read.isEmpty then sequence fuel (← hasFlag 'x') first read
            else failAt .lateGlobalFlags start
        | '^' | '$' => sequence fuel verbose first (.anchor :: read)
        | _ => sequence fuel verbose first (.character :: read)

/-- A part in brackets, the opening one at `start`: its node, which a comment has not, or the mark
that flags for the whole expression were read. -/
def group (fuel : Nat) (verbose : Bool) (start : Nat) : Reader (Option Node ⊕ Unit) :=
  match fuel with
  | 0 => fail .unbalanced 0
  | fuel + 1 => do
    let opening ← if ← accept '?' then readOpening start else pure (.capture none)
    match opening with
    | .globalFlags => return .inr ()
    | .done node => return .inl node
    | .look behind =>
      let outer := (← get).lookbehindFrom
      if behind && outer.isNone then
        modify fun state => { state with lookbehindFrom := some (state.groups.length + 1) }
      let body ← alternatives fuel verbose false false
      if behind && outer.isNone then
        modify fun state => { state with lookbehindFrom := none }
      closeBracket start
      return .inl (some (if behind then .lookbehind body else .lookahead body))
    | .condition =>
      let asked ← conditionGroup
      checkLookbehind asked
      let yes ← sequence fuel verbose false []
      let no ← if ← accept '|' then
          let no ← sequence fuel verbose false []
          if (← peek) == some (.plain '|') then fail .extraBranch 0
          pure no
        else pure .empty
      closeBracket start
      return .inl (some (.conditional yes no))
    | .plain on off =>
      let inner := (verbose || on.contains 'x') && !off.contains 'x'
      let body ← alternatives fuel inner false false
      closeBracket start
      return .inl (some (.group body))
    | .capture label =>
      let number ← openGroup label
      let body ← alternatives fuel verbose false false
      closeBracket start
      closeGroup number body.width
      return .inl (some (.group body))

end

/-- Reads the whole expression and then checks what only the whole can tell. -/
def readAll (pattern : List Char) : Reader Unit := do
  settle
  let node ← alternatives (4 * pattern.length + 8) false true true
  let state ← get
  if state.flags.contains 'a' && state.flags.contains 'u' then throw .flagsClash
  if !state.ahead.isEmpty then fail .unbalanced 0
  match state.forward.find? (fun reference => state.groups.length < reference.1) with
  | some (group, position) => failAt (.invalidReference group) position
  | none => pure ()
  match node.check (state.flags.contains 't') with
  | .ok () => if node.looksTooFar then throw .lookbehindTooLong
  | .error complaint => throw (.malformed complaint none)

/-- Whether the text is a regular expression. -/
def check (pattern : List Char) : Except Fault Unit :=
  let start : State :=
    { ahead := tokens 0 pattern, finish := pattern.length, dangling := dangling pattern }
  (readAll pattern).run' start

end NumberingPlan.Pattern
