import NumberingPlan.Xml.Encoding
import NumberingPlan.Xml.Scan

/-! What references and attribute values mean. No entity is ever declared, so besides the five
predefined ones a reference is undefined; only where declarations may have gone unread is it
passed over. -/

namespace NumberingPlan.Xml

def predefined? (name : List Char) : Option Char :=
  match String.ofList name with
  | "lt" => some '<'
  | "gt" => some '>'
  | "amp" => some '&'
  | "quot" => some '"'
  | "apos" => some '\''
  | _ => none

/-- The character of a number, if XML admits it in a document. -/
def numbered (code : Nat) : Except Fault Char :=
  if isDocumentChar code then .ok (Char.ofNat code) else .error .badCharacterNumber

/-- Appends to a value read backwards. A value that is not plain text keeps no space at its
beginning and none after another. -/
def pushChar (plain : Bool) (c : Char) (read : List Char) : List Char :=
  if !plain && c == ' ' && (read.isEmpty || read.head? == some ' ') then read else c :: read

/-- A token in a quoted text. One that goes on beyond the text is invalid where it begins. -/
def scanQuoted {α : Type} (token : List Char) (scan : Except Misread α) : Except Misread α :=
  scan.mapError fun misread => { misread.within token with fault := .invalidToken }

/-- How things stand inside a quoted text: its end is its own. -/
def Setting.quoted (setting : Setting) : Setting := { setting with ending := .complete }

/-- The value of an attribute, read backwards: each line end and each tab is a space. `skips`
tells whether an undefined entity is passed over. -/
def readValue (setting : Setting) (plain skips : Bool) (read : List Char) :
    Nat → List Char → Except Misread (List Char)
  | 0, _ => .ok read
  | _, [] => .ok read
  | fuel + 1, '\r' :: '\n' :: rest =>
    readValue setting plain skips (pushChar plain ' ' read) fuel rest
  | fuel + 1, '&' :: after => do
    let (reference, rest) ← scanQuoted ('&' :: after) (scanReference setting after)
    match reference with
    | .number code =>
      let c ← (numbered code).mapError (.before · ('&' :: after))
      readValue setting plain skips (pushChar plain c read) fuel rest
    | .entity name =>
      match predefined? name with
      | some c => readValue setting plain skips (c :: read) fuel rest
      | none =>
        if skips then readValue setting plain skips read fuel rest
        else .error ⟨.undefinedEntity, none⟩
  | fuel + 1, c :: rest =>
    if c = '<' then invalidAt (c :: rest)
    else if isSpace c then readValue setting plain skips (pushChar plain ' ' read) fuel rest
    else readValue setting plain skips (c :: read) fuel rest

def attributeValue (setting : Setting) (plain skips : Bool) (raw : List Char) :
    Except Misread (List Char) := do
  let read ← readValue setting.quoted plain skips [] (raw.length + 1) raw
  let read := if plain then read else match read with
    | ' ' :: rest => rest
    | _ => read
  .ok read.reverse

end NumberingPlan.Xml
