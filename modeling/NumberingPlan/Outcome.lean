import NumberingPlan.Collection
import NumberingPlan.Command
import NumberingPlan.Digest.Algorithm
import NumberingPlan.Serialize
import NumberingPlan.Settings
import NumberingPlan.Text.Terminal

/-! What a command comes to: the text that it prints, the code that it ends with, and notes beside
the output. A fault of the settings or of the document is told as one diagnostic. A fault that is
neither ends the command without a word in the output. -/

namespace NumberingPlan

structure Outcome where
  exitCode : Nat
  output : String := ""
  escaped : Option Limit := none
  notes : List String := []
  deriving DecidableEq, Repr

namespace Outcome

def successCode : Nat := 0

def crashCode : Nat := 1

/-- The code of a failed build, and of words that are no command. -/
def failureCode : Nat := 2

def success (output : String) : Outcome := { exitCode := successCode, output }

def crash (limit : Limit) : Outcome :=
  { exitCode := crashCode, escaped := some limit, notes := [limit.message] }

def misuse (words : String) : Outcome := { exitCode := failureCode, notes := [words] }

def schemaVersion : Nat := 1

def line (text : String) : String := text ++ "\n"

/-- A line for readers. The names in it may hold marks for a terminal; those of a report cannot. -/
def plainLine (text : String) : String := line (Text.unmarked text)

def nameOrHyphen (name : String) : String := if name.isEmpty then "-" else name

def diagnosticText (event : Diagnostic) : String :=
  "DIAG severity=" ++ event.severity.text ++ " stage=" ++ event.stage.text ++ " code=" ++ event.code
    ++ " territory=" ++ nameOrHyphen (event.territory.getD "") ++ " message=" ++ event.message

def failureJson (document : String) (event : Json) : Json :=
  .object [
    ("schema_version", .int schemaVersion),
    ("document", .string document),
    ("status", .string "fail"),
    ("exit_code", .int failureCode),
    ("diagnostics", .array [event])]

def told (document : String) (format : OutputFormat) (event : Diagnostic) :
    Except Diagnostic.Fault String :=
  match format with
  | .text => .ok (plainLine (diagnosticText event))
  | .json => do .ok (line (failureJson document (← event.dump)).text)

def failure (document : String) (format : OutputFormat)
    (event : Except Diagnostic.Fault Diagnostic) : Outcome :=
  match event >>= told document format with
  | .error _ => { exitCode := crashCode }
  | .ok output => { exitCode := failureCode, output }

def territoryLine (territory : Territory) : String :=
  "TERRITORY id=" ++ nameOrHyphen territory.id
    ++ " country_code=" ++ Decimal.text territory.countryCode
    ++ " formats=" ++ Decimal.text territory.formats.length
    ++ " intl_formats=" ++ Decimal.text territory.internationalFormats.length

def buildLine (collection : Collection) : String :=
  "BUILD territories=" ++ Decimal.text collection.length
    ++ " sha256=" ++ collection.digest .sha256

def codeLine (entry : Int × List String) : String :=
  "CODE cc=" ++ Decimal.text entry.1 ++ " regions=" ++ ",".intercalate entry.2

def lines (texts : List String) : String := String.join (texts.map plainLine)

def buildText (format : OutputFormat) (collection : Collection) : String :=
  match format with
  | .json => line collection.text
  | .text => lines (collection.map territoryLine ++ [buildLine collection])

def countryCodesText (collection : Collection) : String :=
  lines ((RegionIndex.ofCollection collection).sorted.map codeLine)

end Outcome

def unreadable (path : Path) (fault : ReadFault) : Fault := .rejected
  { code := .documentInvalid, input := path.text,
    message := "unable to read metadata document: " ++ fault.message path }

def Document.ofFile [DocumentReader] (read : FileReader) (name : String) : Except Fault Document :=
  if name.toList.contains '\x00' then .error (.limit .nulInPath)
  else
    let path := Path.ofText name
    match read path with
    | .error fault => .error (unreadable path fault)
    | .ok bytes => Document.ofBytes path.text bytes

/-- Where a build fails: before its document is opened or after. -/
inductive BuildFault where
  | settings (rejection : SettingsRejection)
  | document (rejection : Rejection)
  | limit (limit : Limit)
  deriving DecidableEq, Repr

namespace BuildFault

def ofSettings : Settings.Fault → BuildFault
  | .rejected rejection => .settings rejection
  | .limit bound => .limit bound

def ofDocument : Fault → BuildFault
  | .rejected rejection => .document rejection
  | .limit bound => .limit bound

def outcome (name : String) (format : OutputFormat) : BuildFault → Outcome
  | settings rejection => .failure name format rejection.diagnostic
  | document rejection => .failure name format rejection.diagnostic
  | limit bound => .crash bound

end BuildFault

structure Place where
  working : Path := {}
  read : FileReader

def Place.settings [SettingsReader] (place : Place) (config : Option String)
    (asked : Settings.Override) :
    Except BuildFault Settings :=
  match (Settings.load place.read place.working [] config).1 with
  | .error fault => .error (.ofSettings fault)
  | .ok settings => (settings.override asked).mapError .ofSettings

/-- A flag that is not given asks for nothing. -/
def BuildRequest.asked (request : BuildRequest) : Settings.Override :=
  { lite := if request.lite then some true else none
    special := if request.special then some true else none
    workers := request.workers.map (·.val) }

def Command.paths (working : Path) : Command → List Path
  | .answered _ => []
  | .build request => filesOf request.config request.document
  | .countryCodes document config => filesOf config document
where
  filesOf (config : Option String) (document : String) : List Path :=
    (config.map (fun name => Path.resolve working (Path.ofText name))).toList
      ++ [Path.ofText document]

section Run

variable [SettingsReader] [DocumentReader] [PatternReader]

/-- Settings are read first, the document next, and then it is compiled. -/
def Place.compile (place : Place) (document : String) (config : Option String)
    (asked : Settings.Override) : Except BuildFault Build := do
  let settings ← place.settings config asked
  let document ← (Document.ofFile place.read document).mapError .ofDocument
  .ok (build document settings.profile settings.workers)

def Place.report (place : Place) (document : String) (config : Option String)
    (asked : Settings.Override) (format : OutputFormat) (verbose : Bool)
    (print : Collection → String) : Outcome :=
  match place.compile document config asked with
  | .error fault => fault.outcome document format
  | .ok built =>
    let outcome := match built.result with
      | .error fault => (BuildFault.ofDocument fault).outcome document format
      | .ok collection => .success (print collection)
    { outcome with notes := built.log.filterMap (LogRecord.note? verbose) ++ outcome.notes }

namespace Command

def run (place : Place) : Command → Outcome
  | .answered text => .success text
  | .build request =>
    place.report request.document request.config request.asked request.format
      request.verbose (Outcome.buildText request.format)
  | .countryCodes document config =>
    place.report document config {} .text false Outcome.countryCodesText

def runRead (place : Place) : Except String Command → Outcome
  | .error words => .misuse words
  | .ok command => command.run place

def runWords [CommandReader] (place : Place) (words : List String) : Outcome :=
  runRead place (CommandReader.read words)

end Command

end Run

end NumberingPlan
