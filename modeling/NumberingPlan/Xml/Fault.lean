import NumberingPlan.Text.Charset
import NumberingPlan.Text.Decimal
import NumberingPlan.Text.Quoted

/-! Why a text is no XML document that may be read. The first fault in document order is told, with
its place. Declaring an entity is refused, whatever it stands for. -/

namespace NumberingPlan.Xml

inductive Fault where
  | badSyntax
  | noElement
  | invalidToken
  | unclosedToken
  | partialCharacter
  | mismatchedTag
  | duplicateAttribute
  | junkAfterElement
  | parameterEntity
  | undefinedEntity
  | unresolvedEntity (name : String)
  | badCharacterNumber
  | misplacedDeclaration
  | unknownEncoding
  | incorrectEncoding
  | unclosedCdata
  | badPublicId
  | unboundPrefix
  | undeclaredPrefix
  | badDeclaration
  | reservedXml
  | reservedXmlns
  | reservedNamespace
  | entityForbidden (name : String) (systemId publicId : Option String)
  | unsupportedEncoding (name : String)
  | multibyteEncoding
  | binaryEncoding (name : String)
  | unusableEncoding (name : String) (reason : Charset.Unusable)
  deriving DecidableEq, Repr

def quotedOrNone : Option String → String
  | none => "None"
  | some text => Text.quote text

def Fault.words : Fault → String
  | badSyntax => "syntax error"
  | noElement => "no element found"
  | invalidToken => "not well-formed (invalid token)"
  | unclosedToken => "unclosed token"
  | partialCharacter => "partial character"
  | mismatchedTag => "mismatched tag"
  | duplicateAttribute => "duplicate attribute"
  | junkAfterElement => "junk after document element"
  | parameterEntity => "illegal parameter entity reference"
  | undefinedEntity => "undefined entity"
  | unresolvedEntity name => "undefined entity &" ++ name ++ ";"
  | badCharacterNumber => "reference to invalid character number"
  | misplacedDeclaration => "XML or text declaration not at start of entity"
  | unknownEncoding => "unknown encoding"
  | incorrectEncoding => "encoding specified in XML declaration is incorrect"
  | unclosedCdata => "unclosed CDATA section"
  | badPublicId => "illegal character(s) in public id"
  | unboundPrefix => "unbound prefix"
  | undeclaredPrefix => "must not undeclare prefix"
  | badDeclaration => "XML declaration not well-formed"
  | reservedXml =>
    "reserved prefix (xml) must not be undeclared or bound to another namespace name"
  | reservedXmlns => "reserved prefix (xmlns) must not be declared or undeclared"
  | reservedNamespace => "prefix must not be bound to one of the reserved namespace names"
  | entityForbidden name systemId publicId =>
    "EntitiesForbidden(name='" ++ name ++ "', system_id=" ++ quotedOrNone systemId
      ++ ", public_id=" ++ quotedOrNone publicId ++ ")"
  | unsupportedEncoding name => "unknown encoding: " ++ name
  | multibyteEncoding => "multi-byte encodings are not supported"
  | binaryEncoding name =>
    "'" ++ String.ofList (name.toList.take 400)
      ++ "' is not a text encoding; use codecs.decode() to handle arbitrary codecs"
  | unusableEncoding name reason => reason.message name

/-- A fault, and how many characters are left where it shows. One without a place of its own shows
where its token begins. -/
structure Misread where
  fault : Fault
  left : Option Nat := none
  deriving DecidableEq, Repr

namespace Misread

def before (fault : Fault) (rest : List Char) : Misread := ⟨fault, some rest.length⟩

def within (token : List Char) (misread : Misread) : Misread :=
  { misread with left := some (misread.left.getD token.length) }

/-- The place in a text that goes on for some more characters. -/
def shift (more : Nat) (misread : Misread) : Misread :=
  { misread with left := misread.left.map (· + more) }

end Misread

instance : MonadLift (Except Fault) (Except Misread) :=
  ⟨Except.mapError fun fault => ⟨fault, none⟩⟩

/-- What comes of a token that begins here. -/
def tokenAt {α : Type} (chars : List Char) (scan : Except Misread α) : Except Misread α :=
  scan.mapError (.within chars)

def invalidAt {α : Type} (rest : List Char) : Except Misread α :=
  .error (.before .invalidToken rest)

/-- A fault with its line, counted from one, and its column, counted from zero. -/
structure Located where
  fault : Fault
  line : Nat := 1
  column : Nat := 0
  deriving DecidableEq, Repr

/-- The fault and its place; the refusal of an entity tells none. -/
def Located.words (located : Located) : String :=
  match located.fault with
  | .entityForbidden .. => located.fault.words
  | fault => fault.words ++ ": line " ++ Decimal.text located.line ++ ", column "
      ++ Decimal.text located.column

/-- The line and the column behind some more characters. -/
def advance (line column : Nat) : List Char → Nat × Nat
  | [] => (line, column)
  | '\r' :: '\n' :: rest => advance (line + 1) 0 rest
  | c :: rest =>
    if c = '\n' || c = '\r' then advance (line + 1) 0 rest else advance line (column + 1) rest

def Misread.locate (text : List Char) (misread : Misread) : Located :=
  let left := misread.left.getD text.length
  let (line, column) := advance 1 0 (text.take (text.length - left))
  { fault := misread.fault, line, column }

/-- What stands where the readable characters end. A character that XML forbids may begin as one of
several units does. -/
inductive Ending where
  | complete
  | halfUnit
  | cutCharacter
  | badCharacter (opensLong : Bool)
  deriving DecidableEq, Repr

namespace Ending

/-- The fault of an ending where any character may come next. -/
def inside : Ending → Misread
  | complete | halfUnit => ⟨.unclosedToken, none⟩
  | cutCharacter => ⟨.partialCharacter, none⟩
  | badCharacter _ => .before .invalidToken []

/-- The fault of an ending where only some characters of one unit may come next. -/
def awaiting : Ending → Misread
  | complete | halfUnit => ⟨.unclosedToken, none⟩
  | cutCharacter | badCharacter _ => .before .invalidToken []

/-- The fault of an ending between tokens, unless the text is complete. -/
def between : Ending → Option Misread
  | complete => none
  | ending => some (ending.inside.within [])

/-- Whether a whole unit stands at the end. -/
def hasUnit : Ending → Bool
  | complete | halfUnit => false
  | cutCharacter | badCharacter _ => true

/-- Whether the first unit at the end is one of several that make a character. -/
def opensLong : Ending → Bool
  | complete | halfUnit => false
  | cutCharacter => true
  | badCharacter opensLong => opensLong

end Ending

end NumberingPlan.Xml
