import NumberingPlan.Xml.Namespace
import NumberingPlan.Xml.Node

/-! Reading a document: its declaration, the prolog, the one document element, and what may stand
after it. The first fault in document order stops the reading. -/

namespace NumberingPlan.Xml

/-- An element whose end tag has not been read, with its content so far read backwards. -/
structure Frame where
  name : List Char
  tag : String
  attributes : List (String × String)
  outer : Bindings
  content : List Node
  chars : List Char

/-- Adds the character data read since the last element to the content. -/
def Frame.flush (frame : Frame) : List Node :=
  if frame.chars.isEmpty then frame.content
  else .text (String.ofList frame.chars.reverse) :: frame.content

def Frame.close (frame : Frame) : Node :=
  .element frame.tag frame.attributes frame.flush.reverse

def Frame.add (frame : Frame) (node : Node) : Frame :=
  { frame with content := node :: frame.flush, chars := [] }

/-- The values of a tag's attributes and the bindings they make. -/
def readAttributes (setting : Setting) (decls : Declarations) (element : List Char)
    (seen : List (List Char)) (bindings : Bindings) :
    List RawAttribute → Except Misread (List (List Char × List Char) × Bindings)
  | [] => .ok ([], bindings)
  | raw :: rest =>
    if seen.contains raw.name then .error ⟨.duplicateAttribute, some raw.left⟩
    else do
      let plain := match decls.defaults.find? (fun known =>
          known.owner == element && known.name == raw.name) with
        | some known => known.plain
        | none => true
      let value ← (attributeValue setting plain decls.skips raw.value).mapError
        (.shift raw.valueLeft)
      match boundPrefix? raw.name with
      | some label =>
        let bindings ← bind bindings label value
        readAttributes setting decls element (raw.name :: seen) bindings rest
      | none =>
        let (more, bindings) ←
          readAttributes setting decls element (raw.name :: seen) bindings rest
        .ok ((raw.name, value) :: more, bindings)

/-- Adds the defaults of those attributes that were not given. -/
def addDefaults (element : List Char) (given : List (List Char)) (bindings : Bindings) :
    List DefaultAttribute → Except Misread (List (List Char × List Char) × Bindings)
  | [] => .ok ([], bindings)
  | known :: rest =>
    if known.owner != element || given.contains known.name then
      addDefaults element given bindings rest
    else
      let given := known.name :: given
      match known.value with
      | none => addDefaults element given bindings rest
      | some value =>
        match boundPrefix? known.name with
        | some label => do
          let bindings ← bind bindings label value
          addDefaults element given bindings rest
        | none => do
          let (more, bindings) ← addDefaults element given bindings rest
          .ok ((known.name, value) :: more, bindings)

/-- Interprets a start tag under the bindings around it. -/
def openElement (setting : Setting) (decls : Declarations) (outer : Bindings) (raw : RawTag) :
    Except Misread (Frame × Bindings) := do
  let (given, bindings) ← readAttributes setting decls raw.name [] outer raw.attributes
  let (added, bindings) ←
    addDefaults raw.name (raw.attributes.map (·.name)) bindings decls.defaults
  let attributes ← expandAttributes bindings [] (given ++ added)
  let tag ← expandTag bindings raw.name
  .ok (⟨raw.name, tag, attributes, outer, [], []⟩, bindings)

/-- The end of a text whose last characters may be the beginning of something longer. -/
def opensMore : List Char → Bool
  | ['\r'] | [']'] | [']', ']'] => true
  | _ => false

/-- The part of a marked section between its brackets, with line ends made uniform. -/
def readCdata (setting : Setting) (read : List Char) :
    List Char → Except Misread (List Char × List Char)
  | ']' :: ']' :: '>' :: rest => .ok (read, rest)
  | '\r' :: '\n' :: rest => readCdata setting ('\n' :: read) rest
  | [] => match setting.ending with
    | .complete | .halfUnit => .error (.before .unclosedCdata [])
    | other => .error (other.inside.within [])
  | c :: rest =>
    if opensMore (c :: rest) && !setting.ending.hasUnit then
      .error (.before .unclosedCdata (c :: rest))
    else readCdata setting ((if c = '\r' then '\n' else c) :: read) rest

/-- What is left of a text where it parts from a mark. -/
def partsFrom : List Char → List Char → List Char
  | c :: mark, d :: rest => if c = d then partsFrom mark rest else d :: rest
  | _, rest => rest

/-- The opening of a marked section after `<![`. -/
def scanCdataOpening (setting : Setting) (chars : List Char) : Except Misread (List Char) :=
  let mark := "CDATA[".toList
  let units := (chars.take mark.length).foldl (fun units c => units + setting.units c) 0
  if units + setting.unread < mark.length then
    .error ⟨.unclosedToken, none⟩
  else if chars.take mark.length = mark then .ok (chars.drop mark.length)
  else invalidAt (partsFrom mark chars)

/-- After the document element only blanks, comments and instructions stand. -/
def readEpilog (setting : Setting) : Nat → List Char → Except Misread Unit
  | 0, _ => .ok ()
  | fuel + 1, chars => do
    match ← tokenAt chars (scanProlog setting chars) with
    | none => .ok ()
    | some (.space, rest) | some (.comment, rest) | some (.instruction, rest) =>
      readEpilog setting fuel rest
    | some _ => .error (.before .junkAfterElement chars)

/-- Reads content inside the frames, the innermost first, until the document element is closed;
gives that element and the rest. -/
def readContent (setting : Setting) (decls : Declarations) (frame : Frame) (outer : List Frame)
    (bindings : Bindings) : Nat → List Char → Except Misread (Node × List Char)
  | 0, chars => .error (.before .noElement chars)
  | fuel + 1, chars =>
    let push (c : Char) (rest : List Char) : Except Misread (Node × List Char) :=
      readContent setting decls { frame with chars := c :: frame.chars } outer bindings fuel rest
    let closeWith (node : Node) (around : Bindings) (rest : List Char) :
        Except Misread (Node × List Char) :=
      match outer with
      | [] => .ok (node, rest)
      | next :: more => readContent setting decls (next.add node) more around fuel rest
    let last (rest : List Char) : Except Misread (Node × List Char) :=
      .error (if setting.ending.hasUnit then setting.ending.inside.within []
        else .before .noElement rest)
    match chars with
    | [] => .error (setting.ending.between.getD (.before .noElement []))
    | '<' :: '!' :: rest =>
      match rest with
      | [] => tokenAt chars (.error setting.ending.awaiting)
      | '-' :: rest => do
        let rest ← tokenAt chars (scanCommentOpening setting rest)
        readContent setting decls frame outer bindings fuel rest
      | '[' :: rest => do
        let rest ← tokenAt chars (scanCdataOpening setting rest)
        let (read, rest) ← readCdata setting frame.chars rest
        readContent setting decls { frame with chars := read } outer bindings fuel rest
      | _ => invalidAt rest
    | '<' :: '?' :: rest => do
      let (instruction, rest) ← tokenAt chars (scanInstruction setting rest)
      match instruction with
      | .ordinary => readContent setting decls frame outer bindings fuel rest
      | .declaration _ => .error (.before .misplacedDeclaration chars)
    | '<' :: '/' :: named => do
      let (name, rest) ← tokenAt chars (scanEndTag setting named)
      if name = frame.name then closeWith frame.close frame.outer rest
      else .error (.before .mismatchedTag named)
    | '<' :: rest => do
      let (raw, rest) ← tokenAt chars (scanStartTag setting rest)
      let (inner, innerBindings) ← tokenAt chars (openElement setting decls bindings raw)
      if raw.closed then
        readContent setting decls (frame.add inner.close) outer bindings fuel rest
      else
        readContent setting decls inner (frame :: outer) innerBindings fuel rest
    | '&' :: rest => do
      let (reference, rest) ← tokenAt chars (scanReference setting rest)
      match reference with
      | .number code => push (← tokenAt chars (numbered code)) rest
      | .entity name =>
        match predefined? name with
        | some c => push c rest
        | none =>
          let fault := if decls.skips then .unresolvedEntity (String.ofList name)
            else .undefinedEntity
          .error (.before fault chars)
    | ']' :: ']' :: '>' :: rest => invalidAt ('>' :: rest)
    | ['\r'] => last chars
    | [']'] => last []
    | '\r' :: '\n' :: rest => push '\n' rest
    | c :: rest => push (if c = '\r' then '\n' else c) rest

def readElement (setting : Setting) (decls : Declarations) (chars : List Char) :
    Except Misread Node := do
  let fuel := chars.length + 1
  let (raw, rest) ← tokenAt chars (scanStartTag setting (chars.drop 1))
  let (frame, bindings) ← tokenAt chars (openElement setting decls startBindings raw)
  let (node, rest) ←
    if raw.closed then .ok (frame.close, rest)
    else readContent setting decls frame [] bindings fuel rest
  readEpilog setting fuel rest
  .ok node

/-- A setting of the XML declaration, with what is left behind it and how many characters are left
from its name on. -/
structure DeclarationItem where
  name : List Char
  value : List Char
  rest : List Char
  left : Nat

/-- How many characters are left from the value on. -/
def DeclarationItem.valueLeft (item : DeclarationItem) : Nat :=
  item.value.length + 1 + item.rest.length

/-- A setting after a blank; `none` where the declaration ends. -/
def declarationItem (chars : List Char) : Except Misread (Option DeclarationItem) :=
  let bad (rest : List Char) : Except Misread (Option DeclarationItem) :=
    .error (.before .badDeclaration rest)
  match chars with
  | [] => .ok none
  | c :: rest =>
    if !isSpace c then bad chars
    else match skipSpaces rest with
    | [] => .ok none
    | chars =>
      let (name, rest) := chars.span (fun c => c != '=' && !isSpace c && c.toNat < 0x80)
      if name.isEmpty then bad chars
      else match skipSpaces rest with
      | '=' :: rest =>
        match skipSpaces rest with
        | [] => bad []
        | quote :: rest =>
          if quote = '"' || quote = '\'' then
            match rest.span (fun c => c.isAlphanum || c == '.' || c == '-' || c == '_') with
            | (_, []) => bad []
            | (value, close :: rest) =>
              if close = quote then .ok (some ⟨name, value, rest, chars.length⟩)
              else bad (close :: rest)
          else bad (quote :: rest)
      | rest => bad rest

/-- What an XML declaration says: the encoding it names, with how many characters are left from that
name on, and whether the document stands alone. -/
structure Declaration where
  encoding : Option (List Char × Nat)
  standalone : Bool

def readStandalone (encoding : Option (List Char × Nat)) (item : DeclarationItem) :
    Except Misread Declaration :=
  if item.name ≠ "standalone".toList then .error ⟨.badDeclaration, some item.left⟩
  else if item.value ≠ "yes".toList && item.value ≠ "no".toList then
    .error ⟨.badDeclaration, some item.valueLeft⟩
  else match skipSpaces item.rest with
  | [] => .ok ⟨encoding, item.value = "yes".toList⟩
  | rest => .error (.before .badDeclaration rest)

/-- The version comes first and must be there; an encoding and a word on standing alone may
follow, in this order. -/
def readDeclaration (body : List Char) : Except Misread Declaration := do
  match ← declarationItem body with
  | none => .error (.before .badDeclaration body)
  | some version =>
    if version.name ≠ "version".toList then .error ⟨.badDeclaration, some version.left⟩
    else match ← declarationItem version.rest with
    | none => .ok ⟨none, false⟩
    | some item =>
      if item.name = "encoding".toList then
        if !(item.value.head?.any isAsciiLetter) then
          .error ⟨.badDeclaration, some item.valueLeft⟩
        else
          let encoding := some (item.value, item.valueLeft)
          match ← declarationItem item.rest with
          | none => .ok ⟨encoding, false⟩
          | some last => readStandalone encoding last
      else readStandalone none item

def settingOf (encoding : Encoding) (decoded : Decoded) : Setting :=
  { ending := decoded.ending
    unread := decoded.unread
    units := encoding.unitsOf
    names := match encoding with
      | .latin1 | .utf16 _ => latinNames
      | .utf8 => plainNames (fun c => c.toNat < 0x80)
      | .ascii | .singleByte _ _ => plainNames (fun _ => true) }

/-- The root of a node that was read as an element. -/
def Node.toElement : Node → Element
  | .text chars => ⟨"", [], [.text chars]⟩
  | .element tag attributes content => ⟨tag, attributes, content⟩

def readBody (setting : Setting) (standalone : Bool) (chars : List Char) :
    Except Misread Element := do
  let start : PrologState := { rest := chars, decls := { standalone := standalone } }
  let ((), state) ← (prolog setting false (chars.length + 1)).run start
  let node ← readElement setting state.decls state.rest
  .ok node.toElement

/-- Reads a document from its bytes. `fixed` tells that the encoding is known from outside, so
that one the document names is not looked at. -/
def parse (fixed : Bool) (bytes : List UInt8) : Except Located Element := do
  let opening ← (detect bytes).mapError ({ fault := · })
  let decoded := opening.encoding.decode opening.bytes
  let setting := settingOf opening.encoding decoded
  let place (chars : List Char) (misread : Misread) : Located :=
    misread.locate (opening.mark ++ chars)
  let first := tokenAt decoded.chars (scanProlog setting decoded.chars)
  match ← first.mapError (place decoded.chars) with
  | some (.declaration text, rest) =>
    let declaration ← (readDeclaration text).mapError fun misread =>
      place decoded.chars (misread.shift (2 + rest.length))
    match declaration.encoding with
    | some (name, left) =>
      if fixed then (readBody setting declaration.standalone rest).mapError (place decoded.chars)
      else
        let next ← (declared name opening.encoding).mapError fun fault =>
          place decoded.chars ⟨fault, some (left + 2 + rest.length)⟩
        let read := decoded.chars.take (decoded.chars.length - rest.length)
        let after := next.decode (opening.bytes.drop (opening.encoding.unit * read.length))
        (readBody (settingOf next after) declaration.standalone after.chars).mapError
          (place (read ++ after.chars))
    | none => (readBody setting declaration.standalone rest).mapError (place decoded.chars)
  | _ => (readBody setting false decoded.chars).mapError (place decoded.chars)

end NumberingPlan.Xml
