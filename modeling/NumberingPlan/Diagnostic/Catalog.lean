import NumberingPlan.Rejection
import NumberingPlan.Text.Quoted

/-! The catalog of diagnostics: for every code how grave it is, which stage of a build it comes
from and what to do about it. -/

namespace NumberingPlan

inductive Severity where
  | error
  | warning
  deriving DecidableEq, Repr

namespace Severity

def text : Severity → String
  | error => "error"
  | warning => "warning"

def all : List Severity := [error, warning]

def ofText? (name : String) : Option Severity := all.find? (fun severity => severity.text == name)

end Severity

inductive BuildStage where
  | config
  | load
  | parse
  | resolve
  | format
  deriving DecidableEq, Repr

namespace BuildStage

def text : BuildStage → String
  | config => "config"
  | load => "load"
  | parse => "parse"
  | resolve => "resolve"
  | format => "format"

def all : List BuildStage := [config, load, parse, resolve, format]

def ofText? (name : String) : Option BuildStage := all.find? (fun stage => stage.text == name)

end BuildStage

/-- What can be wrong with a settings file. -/
inductive SettingsCode where
  | readFailed
  | parseFailed
  | invalid
  deriving DecidableEq, Repr

namespace SettingsCode

def text : SettingsCode → String
  | readFailed => "E_BUILD_CONFIG_READ_FAILED"
  | parseFailed => "E_BUILD_CONFIG_PARSE_FAILED"
  | invalid => "E_BUILD_CONFIG_INVALID"

def all : List SettingsCode := [readFailed, parseFailed, invalid]

end SettingsCode

structure CatalogEntry where
  code : String
  severity : Severity
  stage : BuildStage
  action : String
  deriving DecidableEq, Repr

namespace CatalogEntry

inductive Fault where
  | unknownStage (name : String)
  | unknownSeverity (name : String)
  | emptyCode
  | emptyAction (code : String)
  | repeated (code : String)
  deriving DecidableEq, Repr

def Fault.message : Fault → String
  | unknownStage name => Text.quote name ++ " is not a valid BuildStage"
  | unknownSeverity name => Text.quote name ++ " is not a valid Severity"
  | emptyCode => "diagnostic catalog code must be non-empty"
  | emptyAction code =>
    "diagnostic catalog entry '" ++ code ++ "' suggested_action must be non-empty"
  | repeated code => "duplicate diagnostic catalog code: " ++ code

/-- An entry from the texts of its fields. -/
def ofTexts (code severity stage action : String) : Except Fault CatalogEntry :=
  match BuildStage.ofText? stage with
  | none => .error (.unknownStage stage)
  | some stage =>
    match Severity.ofText? severity with
    | none => .error (.unknownSeverity severity)
    | some severity =>
      if code.isEmpty then .error .emptyCode
      else if action.isEmpty then .error (.emptyAction code)
      else .ok { code, severity, stage, action }

end CatalogEntry

abbrev Catalog := List CatalogEntry

namespace Catalog

def find? (catalog : Catalog) (code : String) : Option CatalogEntry :=
  List.find? (fun entry => entry.code == code) catalog

/-- The first entry whose code an earlier entry has. -/
def firstRepeat? : List String → List CatalogEntry → Option String
  | _, [] => none
  | earlier, entry :: rest =>
    if earlier.contains entry.code then some entry.code
    else firstRepeat? (entry.code :: earlier) rest

/-- A catalog has one entry for a code. -/
def ofEntries (entries : List CatalogEntry) : Except CatalogEntry.Fault Catalog :=
  match firstRepeat? [] entries with
  | none => .ok entries
  | some code => .error (.repeated code)

/-- How a finding about a document is dealt with. -/
def rejectionEntry (code : RejectionCode) : CatalogEntry :=
  match code with
  | .lengthSpecMalformed => entry .parse
      "write possible lengths as comma-separated numbers or [min-max] ranges spanning 3+ values"
  | .patternInvalid => entry .parse
      "fix the regular expression so that it compiles"
  | .typeDuplicate => entry .resolve
      "declare each number type at most once per territory"
  | .lengthNotCovered => entry .resolve
      "declare the length on a number type that contributes to the general description"
  | .generalDescLengths => entry .resolve
      "remove possibleLengths from generalDesc; they are derived from the number types"
  | .localOnlyUnexpected => entry .resolve
      "remove localOnly lengths from short-number metadata"
  | .lengthSetsOverlap => entry .resolve
      "list each length as either national or localOnly, not both"
  | .formatCount => entry .format
      "give every numberFormat exactly one format child"
  | .intlFormatDuplicate => entry .format
      "give every numberFormat at most one intlFormat child"
  | .flagsConflict => entry .config
      "select at most one of the lite and special build profiles"
  | .countryCodeInvalid => entry .parse
      "set countryCode to the decimal country calling code"
  | .documentInvalid => entry .load
      "provide a readable, well-formed metadata XML document"
where
  entry (stage : BuildStage) (action : String) : CatalogEntry :=
    { code := code.text, severity := .error, stage, action }

/-- How a fault of a settings file is dealt with. -/
def settingsEntry (code : SettingsCode) : CatalogEntry :=
  { code := code.text, severity := .error, stage := .config, action := action }
where
  action : String := match code with
    | .readFailed => "check that the build configuration file exists and is readable"
    | .parseFailed => "fix the YAML syntax of the build configuration file"
    | .invalid => "use booleans for lite_build/special_build and an integer >= 1 for max_workers"

/-- The entries of all codes that a build can report. -/
def canonical : Catalog :=
  RejectionCode.all.map rejectionEntry ++ SettingsCode.all.map settingsEntry

end Catalog

end NumberingPlan
