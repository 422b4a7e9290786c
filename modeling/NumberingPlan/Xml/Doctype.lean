import NumberingPlan.Xml.Value

/-! The document type declaration. Its grammar is read in full, its default attributes are kept,
and the declaration of an entity is refused where it stands. Declarations after a reference to
a parameter entity are checked but not kept, unless the document stands alone. -/

namespace NumberingPlan.Xml

inductive Mark where
  | plain
  | optional
  | star
  | plus
  deriving DecidableEq

/-- The tokens before the document element and in the declaration. -/
inductive PrologToken where
  | space
  | comment
  | instruction
  | declaration (body : List Char)
  | declOpen (keyword : List Char)
  | declClose
  | name (text : List Char)
  | prefixed (text : List Char)
  | nmtoken
  | marked (text : List Char)
  | literal (text : List Char)
  | openBracket
  | closeBracket
  | sectionOpen
  | sectionClose
  | openParen
  | closeParen (mark : Mark)
  | comma
  | bar
  | percent
  | parameterReference
  | pound (text : List Char)
  | elementStart
  deriving DecidableEq

/-- Whether more of the token could have stood where the text ends. -/
def PrologToken.mightGoOn : PrologToken → Bool
  | name _ | prefixed _ | nmtoken | literal _ | pound _ | closeBracket | closeParen .plain => true
  | _ => false

def isAsciiLetter (c : Char) : Bool := ('a' ≤ c && c ≤ 'z') || ('A' ≤ c && c ≤ 'Z')

/-- A declaration after `<!`. -/
def scanDecl (setting : Setting) (chars : List Char) : Except Misread (PrologToken × List Char) :=
  match chars with
  | [] => .error setting.ending.awaiting
  | '-' :: rest => do .ok (.comment, ← scanCommentOpening setting rest)
  | '[' :: rest => .ok (.sectionOpen, rest)
  | c :: _ =>
    if !setting.names.keyword c then invalidAt chars
    else
      match chars.span setting.names.keyword with
      | (_, []) => .error setting.ending.awaiting
      | (keyword, '%' :: rest) =>
        match rest with
        | [] =>
          if setting.ending.hasUnit then .ok (.declOpen keyword, ['%'])
          else .error ⟨.unclosedToken, none⟩
        | d :: _ =>
          if isSpace d || d == '%' then invalidAt ('%' :: rest)
          else .ok (.declOpen keyword, '%' :: rest)
      | (keyword, d :: rest) =>
        if isSpace d then .ok (.declOpen keyword, d :: rest) else invalidAt (d :: rest)

/-- A token that is closed, but whose follower matters, at the end of the text. -/
def closesAtEnd {α : Type} (setting : Setting) (token : α) : Except Misread (α × List Char) :=
  if setting.ending.hasUnit then invalidAt [] else .ok (token, [])

/-- A quoted text up to its quote, which must be followed by a blank, the end of a declaration,
a percent sign or an opening bracket. -/
def scanLiteral (setting : Setting) (quote : Char) :
    List Char → Except Misread (List Char × List Char)
  | [] => .error setting.ending.inside
  | c :: rest =>
    if c = quote then
      match rest with
      | [] => closesAtEnd setting []
      | d :: _ =>
        if isSpace d || d == '>' || d == '%' || d == '[' then .ok ([], rest)
        else invalidAt rest
    else do
      let (text, rest) ← scanLiteral setting quote rest
      .ok (c :: text, rest)

/-- A word at the end of the text, where more of it could have stood. -/
def wordAtEnd {α : Type} (setting : Setting) (token : α) : Except Misread (α × List Char) :=
  if setting.ending.hasUnit then .error setting.ending.inside else .ok (token, [])

def scanPercent (setting : Setting) (chars : List Char) :
    Except Misread (PrologToken × List Char) :=
  match chars with
  | [] => .error setting.ending.inside
  | c :: _ =>
    if isSpace c || c == '%' then .ok (.percent, chars)
    else do
      let (_, rest) ← scanName setting chars
      match rest with
      | [] => .error setting.ending.inside
      | d :: after => if d = ';' then .ok (.parameterReference, after) else invalidAt rest

def scanPound (setting : Setting) (chars : List Char) :
    Except Misread (PrologToken × List Char) := do
  let (name, rest) ← scanName setting chars
  match rest with
  | [] => wordAtEnd setting (.pound name)
  | d :: _ =>
    if isSpace d || d == ')' || d == '>' || d == '%' || d == '|' then .ok (.pound name, rest)
    else invalidAt rest

/-- What may follow a name in a declaration. -/
def endsName (c : Char) : Bool :=
  isSpace c || c == '>' || c == ')' || c == ',' || c == '|' || c == '[' || c == '%'

/-- The rest of a word that began as `token`. -/
def scanWord (setting : Setting) (token : List Char → PrologToken) (read : List Char) :
    Nat → List Char → Except Misread (PrologToken × List Char)
  | 0, _ => .error setting.ending.inside
  | fuel + 1, chars =>
    let (more, rest) := chars.span setting.names.rest
    let read := read ++ more
    match rest with
    | [] => wordAtEnd setting (token read)
    | c :: after =>
      if endsName c then .ok (token read, rest)
      else if c = ':' then
        match token read with
        | .name _ =>
          match after with
          | [] => .error setting.ending.inside
          | d :: _ =>
            let kind : List Char → PrologToken :=
              if setting.names.rest d then .prefixed else fun _ => .nmtoken
            scanWord setting kind (read ++ [':']) fuel after
        | _ => scanWord setting (fun _ => .nmtoken) (read ++ [':']) fuel after
      else if c == '+' || c == '*' || c == '?' then
        match token read with
        | .nmtoken => invalidAt rest
        | _ => .ok (.marked read, after)
      else invalidAt rest

/-- The next token of the prolog, or `none` at the end of the text. -/
def scanProlog (setting : Setting) (chars : List Char) :
    Except Misread (Option (PrologToken × List Char)) :=
  match chars with
  | [] => match setting.ending.between with
    | none => .ok none
    | some fault => .error fault
  | c :: rest =>
    if isSpace c then .ok (some (.space, skipSpaces rest))
    else match c with
    | '"' | '\'' => do
      let (text, rest) ← scanLiteral setting c rest
      .ok (some (.literal text, rest))
    | '<' =>
      match rest with
      | [] =>
        if setting.ending.opensLong then .ok (some (.elementStart, chars))
        else .error setting.ending.awaiting
      | '!' :: rest => some <$> scanDecl setting rest
      | '?' :: rest => do
        let (instruction, rest) ← scanInstruction setting rest
        match instruction with
        | .ordinary => .ok (some (.instruction, rest))
        | .declaration body => .ok (some (.declaration body, rest))
      | d :: _ =>
        if setting.names.start d || !setting.names.short d then .ok (some (.elementStart, chars))
        else invalidAt rest
    | '%' => some <$> scanPercent setting rest
    | ',' => .ok (some (.comma, rest))
    | '[' => .ok (some (.openBracket, rest))
    | ']' =>
      match rest with
      | [] => .ok (some (.closeBracket, []))
      | [']'] =>
        if setting.ending.hasUnit then .ok (some (.closeBracket, rest))
        else .error ⟨.unclosedToken, none⟩
      | ']' :: '>' :: rest => .ok (some (.sectionClose, rest))
      | _ => .ok (some (.closeBracket, rest))
    | '(' => .ok (some (.openParen, rest))
    | ')' =>
      match rest with
      | [] => some <$> closesAtEnd setting (.closeParen .plain)
      | '*' :: rest => .ok (some (.closeParen .star, rest))
      | '?' :: rest => .ok (some (.closeParen .optional, rest))
      | '+' :: rest => .ok (some (.closeParen .plus, rest))
      | d :: _ =>
        if isSpace d || d == '>' || d == ',' || d == '|' || d == ')' then
          .ok (some (.closeParen .plain, rest))
        else invalidAt rest
    | '|' => .ok (some (.bar, rest))
    | '>' => .ok (some (.declClose, rest))
    | '#' => some <$> scanPound setting rest
    | _ =>
      if setting.names.start c then some <$> scanWord setting .name [c] (rest.length + 1) rest
      else if setting.names.rest c || c == ':' then
        some <$> scanWord setting (fun _ => .nmtoken) [c] (rest.length + 1) rest
      else invalidAt chars

/-- A default given by a declaration: the element, the attribute, whether its type is plain
text, and the value if there is one. -/
structure DefaultAttribute where
  owner : List Char
  name : List Char
  plain : Bool
  value : Option (List Char)

structure Declarations where
  standalone : Bool := false
  unread : Bool := false
  keeps : Bool := true
  defaults : List DefaultAttribute := []

/-- Whether an undefined entity may have been declared out of sight. -/
def Declarations.skips (decls : Declarations) : Bool := decls.unread && !decls.standalone

/-- What is left of the prolog, from the last token on and behind it, and what it has told so far. A
token that might have gone on takes half a unit behind it along, and nothing is left then. -/
structure PrologState where
  rest : List Char
  token : List Char := []
  decls : Declarations
  exhausted : Bool := false

abbrev Prolog := StateT PrologState (Except Misread)

/-- The fault of a token that has no place where it stands. -/
def misplaced : PrologToken → Fault
  | .parameterReference => .parameterEntity
  | .declaration _ => .misplacedDeclaration
  | _ => .badSyntax

/-- The next token, blanks included. -/
def rawToken (setting : Setting) : Prolog PrologToken := do
  let state ← get
  if state.exhausted then throw (.before .noElement [])
  match ← tokenAt state.rest (scanProlog setting state.rest) with
  | none => throw (.before .noElement [])
  | some (token, rest) =>
    let exhausted := rest.isEmpty && !setting.ending.hasUnit && token.mightGoOn
    set { state with rest, exhausted, token := state.rest }
    return token

/-- The next token that is not a blank. -/
def token (setting : Setting) : Prolog PrologToken := do
  match ← rawToken setting with
  | .space => rawToken setting
  | other => return other

/-- A fault that shows where the last token begins. -/
def refuse {α : Type} (fault : Fault) : Prolog α := do throw (.before fault (← get).token)

def wrong {α : Type} (token : PrologToken) : Prolog α := refuse (misplaced token)

/-- What a quoted text comes to that is the last token. -/
def quoted {α : Type} (text : List Char) (read : Except Misread α) : Prolog α := do
  let token := (← get).token
  tokenAt token (read.mapError (.shift (token.length - 1 - text.length)))

def expectClose (setting : Setting) : Prolog Unit := do
  match ← token setting with
  | .declClose => return ()
  | other => wrong other

def expectLiteral (setting : Setting) : Prolog (List Char) := do
  match ← token setting with
  | .literal text => return text
  | other => wrong other

def isPublicIdChar (c : Char) : Bool :=
  c.isAlphanum || c == ' ' || c == '\r' || c == '\n' || "-'()+,./:=?;!*#@$_%".contains c

/-- Blanks of a public identifier are single and inside. -/
def normalizePublicId (text : List Char) : List Char :=
  let squeezed := text.foldl (fun read c => pushChar false (if isSpace c then ' ' else c) read) []
  (match squeezed with
    | ' ' :: rest => rest
    | _ => squeezed).reverse

def expectPublicId (setting : Setting) : Prolog (List Char) := do
  let text ← expectLiteral setting
  match text.dropWhile isPublicIdChar with
  | [] => return normalizePublicId text
  | bad => quoted text (.error (.before .badPublicId bad))

/-- The value of an entity that is not kept is still checked for its references. -/
def checkEntityValue (setting : Setting) : Nat → List Char → Except Misread Unit
  | 0, _ => .ok ()
  | _, [] => .ok ()
  | fuel + 1, '&' :: after => do
    let (reference, rest) ← scanQuoted ('&' :: after) (scanReference setting after)
    if let .number code := reference then
      let _ ← (numbered code).mapError (.before · ('&' :: after))
    checkEntityValue setting fuel rest
  | _ + 1, '%' :: after => do
    let (found, rest) ← scanQuoted ('%' :: after) (scanPercent setting after)
    if found == .parameterReference then .error (.before .parameterEntity ('%' :: after))
    else invalidAt rest
  | fuel + 1, _ :: rest => checkEntityValue setting fuel rest

/-- Refuses the entity, unless its declaration is not kept. -/
def forbid (kept : Bool) (name : List Char) (systemId publicId : Option (List Char)) :
    Prolog Unit := do
  if kept then
    refuse (.entityForbidden (String.ofList name) (systemId.map String.ofList)
      (publicId.map String.ofList))

/-- What follows the name of an entity. -/
def entityBody (setting : Setting) (parameter : Bool) (name : List Char) : Prolog Unit := do
  let keeps := (← get).decls.keeps
  let kept := keeps && (parameter || (predefined? name).isNone)
  let external (publicId : Option (List Char)) : Prolog Unit := do
    let systemId ← expectLiteral setting
    match ← token setting with
    | .declClose => forbid kept name (some systemId) publicId
    | .name word =>
      if parameter || word ≠ "NDATA".toList then wrong (.name word)
      match ← token setting with
      | .name _ =>
        forbid kept name (some systemId) publicId
        expectClose setting
      | other => wrong other
    | other => wrong other
  match ← token setting with
  | .literal value =>
    forbid kept name none none
    if keeps then quoted value (checkEntityValue setting.quoted (value.length + 1) value)
    expectClose setting
  | .name word =>
    if word = "SYSTEM".toList then external none
    else if word = "PUBLIC".toList then external (some (← expectPublicId setting))
    else wrong (.name word)
  | other => wrong other

def entityDecl (setting : Setting) : Prolog Unit := do
  match ← token setting with
  | .percent =>
    match ← token setting with
    | .name name => entityBody setting true name
    | other => wrong other
  | .name name => entityBody setting false name
  | other => wrong other

def notationDecl (setting : Setting) : Prolog Unit := do
  match ← token setting with
  | .name _ =>
    match ← token setting with
    | .name word =>
      if word = "SYSTEM".toList then
        let _ ← expectLiteral setting
        expectClose setting
      else if word = "PUBLIC".toList then
        let _ ← expectPublicId setting
        match ← token setting with
        | .declClose => return ()
        | .literal _ => expectClose setting
        | other => wrong other
      else wrong (.name word)
    | other => wrong other
  | other => wrong other

/-- The alternatives of an enumerated type; only names stand in a list of notations. -/
def enumeration (setting : Setting) (namesOnly : Bool) : Nat → Prolog Unit
  | 0 => refuse .badSyntax
  | fuel + 1 => do
    let value ← token setting
    match value with
    | .name _ => pure ()
    | .nmtoken | .prefixed _ => if namesOnly then wrong value
    | other => wrong other
    match ← token setting with
    | .bar => enumeration setting namesOnly fuel
    | .closeParen .plain => return ()
    | other => wrong other

def tokenTypes : List String :=
  ["ID", "IDREF", "IDREFS", "ENTITY", "ENTITIES", "NMTOKEN", "NMTOKENS"]

def attributeType (setting : Setting) : Prolog Bool := do
  let fuel := (← get).rest.length + 1
  match ← token setting with
  | .name word =>
    if word = "CDATA".toList then return true
    else if tokenTypes.contains (String.ofList word) then return false
    else if word = "NOTATION".toList then
      match ← token setting with
      | .openParen =>
        enumeration setting true fuel
        return false
      | other => wrong other
    else wrong (.name word)
  | .openParen =>
    enumeration setting false fuel
    return false
  | other => wrong other

/-- Keeps a default; the first declaration of an attribute holds. -/
def keepDefault (default : DefaultAttribute) : Prolog Unit :=
  modify fun state =>
    if state.decls.keeps then
      { state with decls := { state.decls with defaults := state.decls.defaults ++ [default] } }
    else state

def defaultValue (setting : Setting) (owner name : List Char) (plain : Bool)
    (raw : List Char) : Prolog Unit := do
  let decls := (← get).decls
  if decls.keeps then
    let value ← quoted raw (attributeValue setting plain decls.skips raw)
    keepDefault ⟨owner, name, plain, some value⟩

def attlistTail (setting : Setting) (owner : List Char) : Nat → Prolog Unit
  | 0 => refuse .badSyntax
  | fuel + 1 => do
    let define (name : List Char) : Prolog Unit := do
      let plain ← attributeType setting
      match ← token setting with
      | .literal raw => defaultValue setting owner name plain raw
      | .pound word =>
        if word = "IMPLIED".toList || word = "REQUIRED".toList then
          keepDefault ⟨owner, name, plain, none⟩
        else if word = "FIXED".toList then
          defaultValue setting owner name plain (← expectLiteral setting)
        else wrong (.pound word)
      | other => wrong other
      attlistTail setting owner fuel
    match ← token setting with
    | .declClose => return ()
    | .name name | .prefixed name => define name
    | other => wrong other

def attlistDecl (setting : Setting) : Prolog Unit := do
  match ← token setting with
  | .name owner | .prefixed owner =>
    attlistTail setting owner ((← get).rest.length + 1)
  | other => wrong other

/-- The rest of mixed content after its first keyword; `listed` tells that names were given. -/
def mixedContent (setting : Setting) (listed : Bool) : Nat → Prolog Unit
  | 0 => refuse .badSyntax
  | fuel + 1 => do
    match ← token setting with
    | .closeParen .star => expectClose setting
    | .closeParen .plain =>
      if listed then wrong (.closeParen .plain) else expectClose setting
    | .bar =>
      match ← token setting with
      | .name _ | .prefixed _ => mixedContent setting true fuel
      | other => wrong other
    | other => wrong other

/-- A group of element content, inside the brackets whose connectors are `open`, innermost first;
`item` tells that a name or a group comes next. -/
def elementContent (setting : Setting) (connectors : List (Option PrologToken)) (item : Bool) :
    Nat → Prolog Unit
  | 0 => refuse .badSyntax
  | fuel + 1 => do
    let found ← token setting
    if item then
      match found with
      | .openParen => elementContent setting (none :: connectors) true fuel
      | .name _ | .prefixed _ | .marked _ => elementContent setting connectors false fuel
      | other => wrong other
    else
      match found, connectors with
      | .closeParen _, [_] => expectClose setting
      | .closeParen _, _ :: outer => elementContent setting outer false fuel
      | .comma, used :: outer | .bar, used :: outer =>
        if used.all (· == found) then
          elementContent setting (some found :: outer) true fuel
        else refuse .badSyntax
      | other, _ => wrong other

def elementDecl (setting : Setting) : Prolog Unit := do
  let fuel := (← get).rest.length + 2
  match ← token setting with
  | .name _ | .prefixed _ =>
    match ← token setting with
    | .name word =>
      if word = "EMPTY".toList || word = "ANY".toList then expectClose setting
      else wrong (.name word)
    | .openParen =>
      match ← token setting with
      | .pound word =>
        if word = "PCDATA".toList then mixedContent setting false fuel else wrong (.pound word)
      | .openParen => elementContent setting [none, none] true fuel
      | .name _ | .prefixed _ | .marked _ => elementContent setting [none] false fuel
      | other => wrong other
    | other => wrong other
  | other => wrong other

def internalSubset (setting : Setting) : Nat → Prolog Unit
  | 0 => throw (.before .noElement [])
  | fuel + 1 => do
    match ← token setting with
    | .closeBracket => return ()
    | .comment | .instruction | .space => internalSubset setting fuel
    | .parameterReference =>
      modify fun state =>
        let decls := state.decls
        { state with decls := { decls with unread := true, keeps := decls.standalone } }
      internalSubset setting fuel
    | .declOpen keyword =>
      match String.ofList keyword with
      | "ENTITY" => entityDecl setting
      | "ATTLIST" => attlistDecl setting
      | "ELEMENT" => elementDecl setting
      | "NOTATION" => notationDecl setting
      | _ => refuse .badSyntax
      internalSubset setting fuel
    | other => wrong other

def markUnread : Prolog Unit :=
  modify fun state => { state with decls := { state.decls with unread := true } }

def doctype (setting : Setting) : Prolog Unit := do
  let fuel := (← get).rest.length + 1
  let afterId : Prolog Unit := do
    markUnread
    match ← token setting with
    | .declClose => return ()
    | .openBracket =>
      internalSubset setting fuel
      expectClose setting
    | other => wrong other
  match ← token setting with
  | .name _ | .prefixed _ =>
    match ← token setting with
    | .declClose => return ()
    | .openBracket =>
      internalSubset setting fuel
      expectClose setting
    | .name word =>
      if word = "SYSTEM".toList then
        let _ ← expectLiteral setting
        afterId
      else if word = "PUBLIC".toList then
        let _ ← expectPublicId setting
        markUnread
        let _ ← expectLiteral setting
        afterId
      else wrong (.name word)
    | other => wrong other
  | other => wrong other

/-- Everything before the document element; `seen` tells that the type declaration was read. -/
def prolog (setting : Setting) (seen : Bool) : Nat → Prolog Unit
  | 0 => throw (.before .noElement [])
  | fuel + 1 => do
    let before := (← get).rest
    match ← rawToken setting with
    | .space | .comment | .instruction => prolog setting seen fuel
    | .declOpen keyword =>
      if !seen && keyword = "DOCTYPE".toList then
        doctype setting
        prolog setting true fuel
      else refuse .badSyntax
    | .elementStart => modify fun state => { state with rest := before }
    | other => wrong other

end NumberingPlan.Xml
