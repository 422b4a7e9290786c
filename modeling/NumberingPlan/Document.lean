import NumberingPlan.Fault
import NumberingPlan.Xml.Node

/-! A numbering plan document: an element with its territories, and two marks that say which kind
of plan it is. A mark is an element with a reserved tag, at the root or anywhere below. -/

namespace NumberingPlan

open Xml (Element)

/-- A reader of XML documents, from the bytes of a file or from a text. -/
class DocumentReader where
  ofBytes : List UInt8 → Except ReaderFault Element
  ofText : String → Except ReaderFault Element

structure Document where
  root : Element
  isShortNumber : Bool
  isAlternateFormats : Bool

namespace Document

def shortNumberTag : String := "ShortNumberMetadata"

def alternateFormatsTag : String := "PhoneNumberAlternateFormats"

def territoryTag : String := "territory"

def marked (root : Element) (tag : String) : Bool :=
  root.tag == tag || !(root.findAll tag).isEmpty

def ofElement (root : Element) : Document :=
  ⟨root, marked root shortNumberTag, marked root alternateFormatsTag⟩

def territories (document : Document) : List Element :=
  document.root.findAll territoryTag

def inlineSource : String := "<inline>"

def textFault (source : String) : ReaderFault → Fault
  | .malformed words => .rejected
      { code := .documentInvalid, input := source,
        message := "unable to parse metadata document: " ++ words }
  | .stopped stop => .limit (.document stop)

section Texts

variable [DocumentReader]

def ofBytes (source : String) (bytes : List UInt8) : Except Fault Document :=
  ((DocumentReader.ofBytes bytes).map ofElement).mapError (textFault source)

/-- Reads a document from a text; an encoding that it names is of no account. -/
def ofText (source text : String) : Except Fault Document :=
  ((DocumentReader.ofText text).map ofElement).mapError (textFault source)

end Texts

end Document

end NumberingPlan
