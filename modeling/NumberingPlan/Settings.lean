import NumberingPlan.Diagnostic.Event
import NumberingPlan.Fault
import NumberingPlan.Files
import NumberingPlan.Profile
import NumberingPlan.Yaml.Document

/-! Build settings and the file that they come from. A file is read once: what its first good
reading gave is kept under its resolved path, and a failed reading leaves nothing behind. -/

namespace NumberingPlan

/-- A reader of YAML: the document of a text, or nothing where a text has none. -/
class SettingsReader where
  load : List Char → Except ReaderFault (Option Yaml.Document)

/-- Settings have one worker at least. -/
structure Settings where
  lite : Bool := false
  special : Bool := false
  workers : Nat := 1
  path : Option String := none
  positive : 1 ≤ workers := by decide
  deriving DecidableEq, Repr

namespace Settings

inductive Fault where
  | rejected (rejection : SettingsRejection)
  | limit (limit : Limit)
  deriving DecidableEq, Repr

def invalid {α : Type} (message : String) : Except Fault α :=
  .error (.rejected { code := .invalid, message })

def profile (settings : Settings) : Profile := ⟨settings.lite, settings.special⟩

def make (lite special : Bool) (workers : Int) (path : Option String) : Except Fault Settings :=
  if enough : 1 ≤ workers then
    .ok { lite, special, workers := workers.toNat, path, positive := by omega }
  else invalid "max_workers must be >= 1"

structure Override where
  lite : Option Bool := none
  special : Option Bool := none
  workers : Option Int := none

/-- What is asked for counts, and what is not stays. -/
def override (settings : Settings) (asked : Override) : Except Fault Settings :=
  make (asked.lite.getD settings.lite) (asked.special.getD settings.special)
    (asked.workers.getD settings.workers) settings.path

def sectionKey : String := "build"

def liteKey : String := "lite_build"

def specialKey : String := "special_build"

def workersKey : String := "max_workers"

abbrev Members := List (String × Nat)

def rootMembers (document : Yaml.Document) : Except Fault Members :=
  match document.value document.root with
  | .datum .null => .ok []
  | .mapping members => .ok members
  | _ => invalid "build configuration root must be a mapping"

def sectionMembers (document : Yaml.Document) (members : Members) : Except Fault Members :=
  match (Yaml.lastOf members sectionKey).map document.value with
  | none | some (.datum .null) => .ok []
  | some (.mapping members) => .ok members
  | some _ => invalid ("invalid mapping for key '" ++ sectionKey ++ "'")

def readFlag (document : Yaml.Document) (members : Members) (key : String) : Except Fault Bool :=
  match (Yaml.lastOf members key).map document.value with
  | none => .ok false
  | some (.datum (.bool value)) => .ok value
  | some _ => invalid ("invalid bool for key '" ++ key ++ "'")

def readCount (document : Yaml.Document) (members : Members) (key : String) : Except Fault Int :=
  match (Yaml.lastOf members key).map document.value with
  | none => .ok 1
  | some (.datum (.int value)) =>
    if value < 1 then invalid ("'" ++ key ++ "' must be >= 1") else .ok value
  | some _ => invalid ("invalid integer for key '" ++ key ++ "'")

/-- The settings that a document gives. Entries that are not settings are passed over. -/
def ofDocument (document : Yaml.Document) (path : String) : Except Fault Settings := do
  let members ← sectionMembers document (← rootMembers document)
  let lite ← readFlag document members liteKey
  let special ← readFlag document members specialKey
  let workers ← readCount document members workersKey
  make lite special workers (some path)

def ofContent (content : Option Yaml.Document) (path : String) : Except Fault Settings :=
  match content with
  | none => make false false 1 (some path)
  | some document => ofDocument document path

/-- A carriage return ends a line, alone or before a line feed. -/
def unifyLines : List Char → List Char
  | [] => []
  | '\r' :: '\n' :: rest => '\n' :: unifyLines rest
  | '\r' :: rest => '\n' :: unifyLines rest
  | c :: rest => c :: unifyLines rest

def textFault (path : String) : ReaderFault → Fault
  | .malformed words => .rejected
      { code := .parseFailed,
        message := "invalid build configuration yaml in '" ++ path ++ "': " ++ words }
  | .stopped stop => .limit (.settings stop)

section Reading

variable [SettingsReader]

def ofBytes (path : String) (bytes : List UInt8) : Except Fault Settings :=
  match Text.Utf8.decode bytes with
  | .error fault => .error (.limit (.undecodable fault))
  | .ok text =>
    match SettingsReader.load (unifyLines text) with
    | .error fault => .error (textFault path fault)
    | .ok content => ofContent content path

def ofFile (read : FileReader) (path : Path) : Except Fault Settings :=
  match read path with
  | .error fault => .error (.rejected
      { code := .readFailed,
        message := "unable to read build configuration '" ++ path.text ++ "': "
          ++ fault.message path })
  | .ok bytes => ofBytes path.text bytes

/-- Good readings by the resolved paths of their files. -/
abbrev Cache := List (Path × Settings)

/-- The settings of a file as it is called, with what is known afterwards. No file stands for the
usual settings. -/
def load (read : FileReader) (working : Path) (cache : Cache) (name : Option String) :
    Except Fault Settings × Cache :=
  match name with
  | none => (.ok {}, cache)
  | some name =>
    if name.toList.contains '\x00' then (.error (.limit .nulInPath), cache)
    else
      let path := Path.resolve working (Path.ofText name)
      match cache.lookup path with
      | some settings => (.ok settings, cache)
      | none =>
        match ofFile read path with
        | .ok settings => (.ok settings, (path, settings) :: cache)
        | .error fault => (.error fault, cache)

end Reading

end Settings

end NumberingPlan
