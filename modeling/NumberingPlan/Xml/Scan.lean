import NumberingPlan.Text.Hex
import NumberingPlan.Xml.Fault
import NumberingPlan.Xml.Name

/-! The tokens of a document's content: comments, instructions, references, tags. Each scanner
takes the characters after the mark that opened the token and gives the rest. A token is
scanned to its end before anything in it is interpreted. -/

namespace NumberingPlan.Xml

/-- Blanks between the parts of a tag. -/
def isSpace (c : Char) : Bool := c == ' ' || c == '\t' || c == '\n' || c == '\r'

/-- Which characters a document's encoding admits into names. Whether a character that is not
`short` is in a name does not show from its first unit. -/
structure Names where
  start : Char → Bool
  rest : Char → Bool
  short : Char → Bool

def plainNames (short : Char → Bool) : Names := ⟨isNameStart, isNameChar, short⟩

/-- Encodings with the Latin-1 characters below 256 as single units count three signs there as
letters too. -/
def latinNames : Names :=
  let sign (c : Char) := c == 'ª' || c == 'µ' || c == 'º'
  ⟨fun c => isNameStart c || sign c, fun c => isNameChar c || sign c, fun c => c.toNat < 0x100⟩

/-- Whether a character begins names and its first unit shows it. -/
def Names.keyword (names : Names) (c : Char) : Bool := names.short c && names.start c

/-- What a scanner knows of the text besides its characters: how it ends, how many units lie
behind the end, and how many units a character has. -/
structure Setting where
  ending : Ending
  unread : Nat
  units : Char → Nat
  names : Names

/-- A name without a colon. -/
def scanName (setting : Setting) (chars : List Char) : Except Misread (List Char × List Char) :=
  match chars with
  | [] => .error setting.ending.inside
  | c :: _ =>
    if setting.names.start c then .ok (chars.span setting.names.rest) else invalidAt chars

/-- A name that may have one prefix before a colon. -/
def scanQualified (setting : Setting) (chars : List Char) :
    Except Misread (List Char × List Char) := do
  let (name, rest) ← scanName setting chars
  match rest with
  | ':' :: rest =>
    let (second, rest) ← scanName setting rest
    .ok (name ++ ':' :: second, rest)
  | _ => .ok (name, rest)

/-- Passes a comment after its two opening hyphens. -/
def scanComment (setting : Setting) : List Char → Except Misread (List Char)
  | '-' :: '-' :: rest =>
    match rest with
    | [] => .error setting.ending.awaiting
    | c :: after => if c = '>' then .ok after else invalidAt rest
  | [] => .error setting.ending.inside
  | _ :: rest => scanComment setting rest

/-- Passes a comment after its first opening hyphen. -/
def scanCommentOpening (setting : Setting) (chars : List Char) : Except Misread (List Char) :=
  match chars with
  | [] => .error setting.ending.awaiting
  | c :: rest => if c = '-' then scanComment setting rest else invalidAt chars

def scanInstructionBody (setting : Setting) : List Char → Except Misread (List Char × List Char)
  | '?' :: '>' :: rest => .ok ([], rest)
  | [] => .error setting.ending.inside
  | c :: rest => do
    let (body, rest) ← scanInstructionBody setting rest
    .ok (c :: body, rest)

inductive Instruction where
  | ordinary
  | declaration (body : List Char)

/-- An instruction after its opening mark. One whose target is `xml` is a declaration, and no
other spelling of that target is allowed. -/
def scanInstruction (setting : Setting) (chars : List Char) :
    Except Misread (Instruction × List Char) := do
  let (target, rest) ← scanName setting chars
  let result (body : List Char) : Except Misread Instruction :=
    if target = "xml".toList then .ok (.declaration body)
    else if target.map Char.toLower = "xml".toList then invalidAt rest
    else .ok .ordinary
  match rest with
  | [] => .error setting.ending.inside
  | c :: after =>
    if isSpace c then
      let _ ← result []
      let (body, rest) ← scanInstructionBody setting after
      .ok (← result (c :: body), rest)
    else if c = '?' then
      let made ← result []
      match after with
      | [] => .error setting.ending.awaiting
      | d :: last => if d = '>' then .ok (made, last) else invalidAt after
    else invalidAt rest

inductive Reference where
  | number (code : Nat)
  | entity (name : List Char)

/-- A number too large to be a character is kept at this bound. -/
def tooLargeCode : Nat := 0x110000

def referenceNumber (base : Nat) (digits : List Char) : Nat :=
  digits.foldl (fun code c => min tooLargeCode (base * code + Text.hexDigitValue c)) 0

def scanDigits (setting : Setting) (isDigit : Char → Bool) (base : Nat) (chars : List Char) :
    Except Misread (Reference × List Char) :=
  match chars.span isDigit with
  | (_, []) => .error setting.ending.awaiting
  | (_ :: _, ';' :: rest) =>
    .ok (.number (referenceNumber base (chars.takeWhile isDigit)), rest)
  | (_, rest) => invalidAt rest

/-- A reference after its ampersand. -/
def scanReference (setting : Setting) (chars : List Char) :
    Except Misread (Reference × List Char) :=
  match chars with
  | '#' :: 'x' :: rest => scanDigits setting Text.isHexDigit 16 rest
  | '#' :: rest => scanDigits setting Char.isDigit 10 rest
  | _ => do
    let (name, rest) ← scanName setting chars
    match rest with
    | ';' :: rest => .ok (.entity name, rest)
    | [] => .error setting.ending.inside
    | _ => invalidAt rest

/-- The raw text of an attribute's value, up to its closing quote, with its references checked
for their form; `fuel` bounds the characters left. -/
def scanValue (setting : Setting) (quote : Char) :
    Nat → List Char → Except Misread (List Char × List Char)
  | 0, _ => .error setting.ending.inside
  | _, [] => .error setting.ending.inside
  | fuel + 1, c :: rest =>
    if c = quote then .ok ([], rest)
    else if c = '<' then invalidAt (c :: rest)
    else if c = '&' then do
      let (_, after) ← scanReference setting rest
      let (value, last) ← scanValue setting quote fuel after
      .ok (c :: rest.take (rest.length - after.length) ++ value, last)
    else do
      let (value, last) ← scanValue setting quote fuel rest
      .ok (c :: value, last)

/-- An attribute as it is written, with how many characters are left from its name on and behind its
value. -/
structure RawAttribute where
  name : List Char
  value : List Char
  left : Nat
  valueLeft : Nat

structure RawTag where
  name : List Char
  attributes : List RawAttribute
  closed : Bool

/-- The end of a tag after a slash. -/
def scanSlash (setting : Setting) (chars : List Char) : Except Misread (List Char) :=
  match chars with
  | [] => .error setting.ending.awaiting
  | c :: rest => if c = '>' then .ok rest else invalidAt chars

def skipSpaces (chars : List Char) : List Char := chars.dropWhile isSpace

def scanAttribute (setting : Setting) (chars : List Char) :
    Except Misread (RawAttribute × List Char) := do
  let (name, rest) ← scanQualified setting chars
  match skipSpaces rest with
  | [] => .error (if rest.isEmpty then setting.ending.inside else setting.ending.awaiting)
  | c :: after =>
    if c = '=' then
      match skipSpaces after with
      | [] => .error setting.ending.awaiting
      | quote :: rest =>
        if quote = '"' || quote = '\'' then do
          let (value, rest) ← scanValue setting quote (rest.length + 1) rest
          if rest.isEmpty then .error setting.ending.awaiting
          else .ok (⟨name, value, chars.length, rest.length + 1⟩, rest)
        else invalidAt (quote :: rest)
    else invalidAt (c :: after)

/-- The attributes and the end of a start tag, from a place where a blank or the end may stand. -/
def scanAttributes (setting : Setting) :
    Nat → List Char → Except Misread ((List RawAttribute × Bool) × List Char)
  | 0, _ => .error setting.ending.inside
  | fuel + 1, chars =>
    match chars with
    | [] => .error setting.ending.inside
    | '>' :: rest => .ok (([], false), rest)
    | '/' :: rest => do .ok (([], true), ← scanSlash setting rest)
    | c :: _ =>
      if isSpace c then
        match skipSpaces chars with
        | [] => .error setting.ending.inside
        | '>' :: rest => .ok (([], false), rest)
        | '/' :: rest => do .ok (([], true), ← scanSlash setting rest)
        | rest => do
          let (first, rest) ← scanAttribute setting rest
          let ((more, closed), rest) ← scanAttributes setting fuel rest
          .ok ((first :: more, closed), rest)
      else invalidAt chars

/-- A start tag after its opening angle. -/
def scanStartTag (setting : Setting) (chars : List Char) : Except Misread (RawTag × List Char) := do
  let (name, rest) ← scanQualified setting chars
  let ((attributes, closed), rest) ← scanAttributes setting (rest.length + 1) rest
  .ok (⟨name, attributes, closed⟩, rest)

/-- An end tag after its slash; any number of colons may stand in its name. -/
def scanEndTag (setting : Setting) (chars : List Char) :
    Except Misread (List Char × List Char) := do
  let (first, rest) ← scanName setting chars
  let (more, rest) := rest.span (fun c => setting.names.rest c || c == ':')
  match skipSpaces rest with
  | [] => .error (if rest.isEmpty then setting.ending.inside else setting.ending.awaiting)
  | c :: after => if c = '>' then .ok (first ++ more, after) else invalidAt (c :: after)

end NumberingPlan.Xml
