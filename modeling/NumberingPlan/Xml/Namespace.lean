import NumberingPlan.Xml.Doctype

/-! Namespaces. A prefix is bound by an attribute of the element or of one around it; a bound
name is written with its namespace in braces before it. Attributes that bind are not reported. -/

namespace NumberingPlan.Xml

/-- The bindings in force, the innermost first; the empty prefix is the default one, and an empty
namespace undoes a default. -/
abbrev Bindings := List (List Char × List Char)

def xmlNamespace : List Char := "http://www.w3.org/XML/1998/namespace".toList

def xmlnsNamespace : List Char := "http://www.w3.org/2000/xmlns/".toList

def startBindings : Bindings := [("xml".toList, xmlNamespace)]

/-- The part before the colon, if there is a colon, and the part after it. -/
def splitName (name : List Char) : Option (List Char) × List Char :=
  match name.span (· != ':') with
  | (before, ':' :: after) => (some before, after)
  | _ => (none, name)

/-- The prefix that an attribute binds, empty for the default namespace. -/
def boundPrefix? (name : List Char) : Option (List Char) :=
  match splitName name with
  | (none, whole) => if whole = "xmlns".toList then some [] else none
  | (some before, after) => if before = "xmlns".toList then some after else none

def bind (bindings : Bindings) (label namespaceName : List Char) : Except Fault Bindings :=
  if namespaceName.isEmpty && !label.isEmpty then .error .undeclaredPrefix
  else if label = "xmlns".toList then .error .reservedXmlns
  else if namespaceName.contains '\x7d' then .error .badSyntax
  else if label = "xml".toList then
    if namespaceName = xmlNamespace then .ok ((label, namespaceName) :: bindings)
    else .error .reservedXml
  else if namespaceName = xmlNamespace || namespaceName = xmlnsNamespace then
    .error .reservedNamespace
  else .ok ((label, namespaceName) :: bindings)

def expanded (namespaceName name : List Char) : String :=
  String.ofList ('\x7b' :: namespaceName ++ '\x7d' :: name)

/-- The name of an element, in the default namespace if it has no prefix. -/
def expandTag (bindings : Bindings) (name : List Char) : Except Fault String :=
  match splitName name with
  | (some label, after) =>
    match bindings.lookup label with
    | some namespaceName => .ok (expanded namespaceName after)
    | none => .error .unboundPrefix
  | (none, _) =>
    match bindings.lookup [] with
    | some (c :: more) => .ok (expanded (c :: more) name)
    | _ => .ok (String.ofList name)

/-- The names of attributes; those without a prefix have no namespace. Two prefixes for one
namespace must not give one name twice. -/
def expandAttributes (bindings : Bindings) (seen : List String) :
    List (List Char × List Char) → Except Fault (List (String × String))
  | [] => .ok []
  | (name, value) :: rest =>
    match splitName name with
    | (none, _) => do
      let more ← expandAttributes bindings seen rest
      .ok ((String.ofList name, String.ofList value) :: more)
    | (some label, after) =>
      match bindings.lookup label with
      | none => .error .unboundPrefix
      | some namespaceName =>
        let full := expanded namespaceName after
        if seen.contains full then .error .duplicateAttribute
        else do
          let more ← expandAttributes bindings (full :: seen) rest
          .ok ((full, String.ofList value) :: more)

end NumberingPlan.Xml
