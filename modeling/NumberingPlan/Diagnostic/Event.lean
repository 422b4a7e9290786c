import NumberingPlan.Diagnostic.Catalog
import NumberingPlan.Diagnostic.Evidence

/-! Diagnostic events: what a build tells about a fault. An event says where it comes from, by
element, by territory or by both. -/

namespace NumberingPlan

structure Diagnostic where
  code : String
  severity : Severity
  message : String
  action : String
  stage : BuildStage
  element : Option String := none
  territory : Option String := none
  witness : Option Json := none
  deriving Repr

namespace Diagnostic

/-- What is wrong with one field. -/
inductive Complaint where
  | missing
  | notText
  | emptyText
  | notAmong (choices : List String)
  | unknownField
  | refused (message : String)
  deriving DecidableEq, Repr

namespace Complaint

def kind : Complaint → String
  | missing => "missing"
  | notText => "string_type"
  | emptyText => "string_too_short"
  | notAmong _ => "enum"
  | unknownField => "extra_forbidden"
  | refused _ => "value_error"

/-- Names in quotes, with a comma between them and a word before the last. -/
def choiceText : List String → String
  | [] => ""
  | [choice] => "'" ++ choice ++ "'"
  | [choice, last] => "'" ++ choice ++ "' or '" ++ last ++ "'"
  | choice :: rest => "'" ++ choice ++ "', " ++ choiceText rest

def message : Complaint → String
  | missing => "Field required"
  | notText => "Input should be a valid string"
  | emptyText => "String should have at least 1 character"
  | notAmong choices => "Input should be " ++ choiceText choices
  | unknownField => "Extra inputs are not permitted"
  | refused message => "Value error, " ++ message

end Complaint

/-- A complaint with the field that it is about; one about the whole event has no field. -/
structure Finding where
  field : String
  complaint : Complaint
  deriving DecidableEq, Repr

namespace Finding

def before (a b : Finding) : Bool :=
  decide (a.field < b.field) || (a.field == b.field &&
    (decide (a.complaint.kind < b.complaint.kind) || (a.complaint.kind == b.complaint.kind &&
      decide (a.complaint.message ≤ b.complaint.message))))

def sorted (findings : List Finding) : List Finding := findings.mergeSort before

end Finding

inductive Fault where
  | emptyCode
  | emptyMessage
  | uncataloged (code : String)
  | codeMutable (shape : String)
  | invalid (findings : List Finding)
  | stopped (fault : Evidence.Fault)
  | tooManyLevels
  deriving DecidableEq, Repr

def Fault.message : Fault → String
  | emptyCode => "diagnostic code must be non-empty"
  | emptyMessage => "diagnostic message must be non-empty"
  | uncataloged code =>
    "diagnostic code '" ++ code ++ "' is not cataloged and lacks explicit fields"
  | codeMutable shape => "unhashable type: '" ++ shape ++ "'"
  | invalid _ => "invalid fields"
  | stopped fault => fault.message
  | tooManyLevels => "Circular reference detected (depth exceeded)"

/-- An event that comes from nowhere. -/
def noContext : Finding :=
  ⟨"", .refused "at least one context value is required: element_id or territory_id"⟩

def checkContext (diagnostic : Diagnostic) : Except Fault Diagnostic :=
  if diagnostic.element.isNone && diagnostic.territory.isNone then .error (.invalid [noContext])
  else .ok diagnostic

abbrev Fields := List (String × Evidence)

namespace Fields

def names : List String :=
  ["code", "severity", "message", "suggested_action", "stage", "element_id", "territory_id",
    "witness"]

def required {α : Type} (fields : Fields) (name : String)
    (read : Evidence → Except Complaint α) : Except Complaint α :=
  match fields.lookup name with
  | none => .error .missing
  | some value => read value

def optional {α : Type} (fields : Fields) (name : String)
    (read : Evidence → Except Complaint α) : Except Complaint (Option α) :=
  match fields.lookup name with
  | none => .ok none
  | some .null => .ok none
  | some value => (read value).map some

def readText : Evidence → Except Complaint String
  | .string value => .ok value
  | _ => .error .notText

def readFullText (value : Evidence) : Except Complaint String := do
  let text ← readText value
  if text.isEmpty then .error .emptyText else .ok text

def readSeverity (value : Evidence) : Except Complaint Severity :=
  let choices : Complaint := .notAmong (Severity.all.map Severity.text)
  match value with
  | .string name => (Severity.ofText? name).elim (.error choices) .ok
  | _ => .error choices

def readStage (value : Evidence) : Except Complaint BuildStage :=
  let choices : Complaint := .notAmong (BuildStage.all.map BuildStage.text)
  match value with
  | .string name => (BuildStage.ofText? name).elim (.error choices) .ok
  | _ => .error choices

def readWitness (room : Nat) (value : Evidence) : Except Complaint Json :=
  (value.normal room).mapError (fun fault => .refused fault.message)

/-- The fault of a witness that there is no room for. -/
def stop? (room : Nat) (fields : Fields) : Option Evidence.Fault :=
  match fields.lookup "witness" with
  | none => none
  | some .null => none
  | some value =>
    match value.normal room with
    | .ok _ => none
    | .error fault => if fault.isStop then some fault else none

def complaint? {α : Type} (name : String) : Except Complaint α → List Finding
  | .ok _ => []
  | .error complaint => [⟨name, complaint⟩]

def findings (room : Nat) (fields : Fields) : List Finding :=
  complaint? "code" (fields.required "code" readFullText)
    ++ complaint? "severity" (fields.required "severity" readSeverity)
    ++ complaint? "message" (fields.required "message" readFullText)
    ++ complaint? "suggested_action" (fields.required "suggested_action" readFullText)
    ++ complaint? "stage" (fields.required "stage" readStage)
    ++ complaint? "element_id" (fields.optional "element_id" readText)
    ++ complaint? "territory_id" (fields.optional "territory_id" readText)
    ++ complaint? "witness" (fields.optional "witness" (readWitness room))
    ++ (fields.filter (fun field => !names.contains field.1)).map
        (fun field => ⟨field.1, .unknownField⟩)

def event? (room : Nat) (fields : Fields) : Except Complaint Diagnostic := do
  .ok
    { code := ← fields.required "code" readFullText
      severity := ← fields.required "severity" readSeverity
      message := ← fields.required "message" readFullText
      action := ← fields.required "suggested_action" readFullText
      stage := ← fields.required "stage" readStage
      element := ← fields.optional "element_id" readText
      territory := ← fields.optional "territory_id" readText
      witness := ← fields.optional "witness" (readWitness room) }

end Fields

/-- The event of some fields, with room for so many calls. All complaints about fields are told at
once, unless there is no room for the witness; whether the event has a context is asked when there
are none. -/
def ofFields (room : Nat) (fields : Fields) : Except Fault Diagnostic :=
  match fields.stop? room with
  | some fault => .error (.stopped fault)
  | none =>
    match fields.findings room, fields.event? room with
    | [], .ok diagnostic => diagnostic.checkContext
    | findings, _ => .error (.invalid (Finding.sorted findings))

def wording : Double.Wording := ⟨"inf", "nan"⟩

mutual

/-- A code that is not cataloged, or a part of one, as a message shows it. A code that holds
something that can change cannot be looked for. -/
def codePart : Evidence → Except Fault (List Char)
  | .null => .ok "None".toList
  | .bool value => .ok (if value then "True" else "False").toList
  | .int value => .ok (Decimal.ofInt value)
  | .number value => .ok (value.chars wording)
  | .string value => .ok (Text.quote value).toList
  | .list _ => .error (.codeMutable "list")
  | .tuple [item] => do .ok ('(' :: (← codePart item) ++ [',', ')'])
  | .tuple items => do .ok ('(' :: (← codeParts items) ++ [')'])
  | .map _ => .error (.codeMutable "dict")
  | .foreign => .ok []

def codeParts : List Evidence → Except Fault (List Char)
  | [] => .ok []
  | [item] => codePart item
  | item :: next :: rest => do
    let shown ← codePart item
    .ok (shown ++ ',' :: ' ' :: (← codeParts (next :: rest)))

end

def codeText : Evidence → Except Fault String
  | .string value => .ok value
  | code => (codePart code).map String.ofList

/-- A field that the catalog stands in for when it is not given. -/
def Fields.fallback (fields : Fields) (name : String) (cataloged : Option String) : Evidence :=
  let given := (fields.lookup name).getD .null
  match cataloged with
  | none => given
  | some text => if given.isVoid then .string text else given

def isNull : Evidence → Bool
  | .null => true
  | _ => false

/-- The event of some fields, completed from the catalog. -/
def ofFieldsCataloged (room : Nat) (fields : Fields) : Except Fault Diagnostic := do
  let code := (fields.lookup "code").getD .null
  let message := (fields.lookup "message").getD .null
  if code.isVoid then .error .emptyCode
  else if message.isVoid then .error .emptyMessage
  else
    let name ← codeText code
    let entry := match code with
      | .string name => Catalog.canonical.find? name
      | _ => none
    let severity := fields.fallback "severity" (entry.map (·.severity.text))
    let stage := fields.fallback "stage" (entry.map (·.stage.text))
    let action := fields.fallback "suggested_action" (entry.map (·.action))
    if isNull severity || isNull stage || action.isVoid then .error (.uncataloged name)
    else ofFields room [("code", code), ("severity", severity), ("message", message),
      ("suggested_action", action), ("stage", stage),
      ("element_id", (fields.lookup "element_id").getD .null),
      ("territory_id", (fields.lookup "territory_id").getD .null),
      ("witness", (fields.lookup "witness").getD .null)]

/-- The event of a code, with what the catalog says about it. -/
def ofCode (code message : String) (element territory : Option String) (witness : Option Json) :
    Except Fault Diagnostic :=
  if code.isEmpty then .error .emptyCode
  else if message.isEmpty then .error .emptyMessage
  else
    match Catalog.canonical.find? code with
    | none => .error (.uncataloged code)
    | some entry => checkContext
        { code, message, element, territory, witness,
          severity := entry.severity, action := entry.action, stage := entry.stage }

/-- The members of an event's text; what is not there is left out. -/
def json (diagnostic : Diagnostic) : Json :=
  let optional (name : String) (value : Option Json) : List (String × Json) :=
    match value with
    | none => []
    | some value => [(name, value)]
  .object (
    [("code", .string diagnostic.code), ("severity", .string diagnostic.severity.text),
      ("message", .string diagnostic.message), ("suggested_action", .string diagnostic.action),
      ("stage", .string diagnostic.stage.text)]
    ++ optional "element_id" (diagnostic.element.map .string)
    ++ optional "territory_id" (diagnostic.territory.map .string)
    ++ optional "witness" diagnostic.witness)

/-- How many values inside one another are written. -/
def greatestLevels : Nat := 255

mutual

/-- A value as it is written, if it has no more levels. A number without digits is written as
null. -/
def shown? (levels : Nat) (value : Json) : Option Json :=
  if levels = 0 then none
  else match value with
    | .null => some .null
    | .bool value => some (.bool value)
    | .int value => some (.int value)
    | .number value => some (if value.isFinite then .number value else .null)
    | .string value => some (.string value)
    | .array items => (shownItems? (levels - 1) items).map .array
    | .object members => (shownMembers? (levels - 1) members).map .object

def shownItems? (levels : Nat) : List Json → Option (List Json)
  | [] => some []
  | item :: rest => do
    let item ← shown? levels item
    let rest ← shownItems? levels rest
    some (item :: rest)

def shownMembers? (levels : Nat) : List (String × Json) → Option (List (String × Json))
  | [] => some []
  | (key, value) :: rest => do
    let value ← shown? levels value
    let rest ← shownMembers? levels rest
    some ((key, value) :: rest)

end

/-- The members of an event's text as they are written. -/
def dump (diagnostic : Diagnostic) : Except Fault Json :=
  match diagnostic.witness with
  | none => .ok diagnostic.json
  | some witness =>
    match shown? greatestLevels witness with
    | none => .error .tooManyLevels
    | some shown => .ok { diagnostic with witness := some shown }.json

end Diagnostic

namespace Rejection

/-- The evidence of a rejection: the text at fault and the values that show the fault. -/
def evidence (rejection : Rejection) : Json :=
  .object (("input_text", .string rejection.input) ::
    match rejection.witness with
    | none => []
    | some values => [("values", .strings values)])

/-- The event of a rejection. One that names no territory comes from the document. -/
def diagnostic (rejection : Rejection) : Except Diagnostic.Fault Diagnostic :=
  Diagnostic.ofCode rejection.code.text rejection.message
    (some (if rejection.territory.isNone then "document" else "territory"))
    rejection.territory (some rejection.evidence)

end Rejection

structure SettingsRejection where
  code : SettingsCode
  message : String
  deriving DecidableEq, Repr

namespace SettingsRejection

def text (rejection : SettingsRejection) : String :=
  rejection.code.text ++ ": " ++ rejection.message

/-- The element that settings faults come from. -/
def element : String := "config"

def diagnostic (rejection : SettingsRejection) : Except Diagnostic.Fault Diagnostic :=
  Diagnostic.ofCode rejection.code.text rejection.message (some element) none none

end SettingsRejection

end NumberingPlan
