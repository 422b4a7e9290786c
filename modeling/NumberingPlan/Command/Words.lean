import NumberingPlan.Command
import NumberingPlan.Text.Integer

/-! The words of the command line. Options may stand before and after the document; one that takes
a value takes the next word, whatever it is, or what stands behind its equals sign. -/

namespace NumberingPlan.Command

/-- Why the words are no command. -/
inductive Misuse where
  | noCommand
  | unknownCommand (name : String)
  | unknownOption (name : String)
  | valueMissing (name : String)
  | valueUnexpected (name : String)
  | badWorkers (value : String)
  | badFormat (value : String)
  | noDocument
  | extraWord (word : String)
  deriving DecidableEq, Repr

def Misuse.message : Misuse → String
  | noCommand => "Missing command."
  | unknownCommand name => "No such command '" ++ name ++ "'."
  | unknownOption name => "No such option: " ++ name
  | valueMissing name => "Option '" ++ name ++ "' requires an argument."
  | valueUnexpected name => "Option '" ++ name ++ "' does not take a value."
  | badWorkers value => "Invalid value for '--workers': " ++ value
  | badFormat value => "Invalid value for '--format': " ++ value
  | noDocument => "Missing argument 'DOCUMENT'."
  | extraWord word => "Got unexpected extra argument (" ++ word ++ ")"

inductive Flag where
  | lite
  | special
  | verbose
  | config
  | workers
  | format
  | help
  deriving DecidableEq, Repr

namespace Flag

def name : Flag → String
  | lite => "--lite"
  | special => "--special"
  | verbose => "--verbose"
  | config => "--config"
  | workers => "--workers"
  | format => "--format"
  | help => "--help"

def takesValue : Flag → Bool
  | config | workers | format => true
  | _ => false

def ofBuild : List Flag := [lite, special, verbose, config, workers, format, help]

def ofCountryCodes : List Flag := [config, help]

end Flag

/-- The flags that were given, with their values, and the other words. -/
structure Words where
  flags : List (Flag × String) := []
  plain : List String := []

namespace Words

def addFlag (words : Words) (flag : Flag) (value : String) : Words :=
  { words with flags := (flag, value) :: words.flags }

def addPlain (words : Words) (word : String) : Words :=
  { words with plain := word :: words.plain }

def has (words : Words) (flag : Flag) : Bool := words.flags.any (·.1 == flag)

/-- The value of a flag; of several the last counts. -/
def value? (words : Words) (flag : Flag) : Option String := words.flags.reverse.lookup flag

end Words

/-- Whether a word is an option; a lone hyphen is not. -/
def isOption (word : String) : Bool :=
  match word.toList with
  | '-' :: _ :: _ => true
  | _ => false

def splitOption (word : String) : String × Option String :=
  let chars := word.toList
  let name := chars.takeWhile (· != '=')
  match chars.drop name.length with
  | _ :: value => (String.ofList name, some (String.ofList value))
  | [] => (word, none)

/-- Sorts words into flags and others. Two hyphens alone end the flags. -/
def sortWords (known : List Flag) : List String → Except Misuse Words
  | [] => .ok {}
  | word :: rest =>
    if word == "--" then .ok { plain := rest }
    else if isOption word then
      let (name, attached) := splitOption word
      match known.find? (·.name == name) with
      | none => .error (.unknownOption name)
      | some flag =>
        if flag.takesValue then
          match attached, rest with
          | some value, rest => (sortWords known rest).map (·.addFlag flag value)
          | none, value :: rest => (sortWords known rest).map (·.addFlag flag value)
          | none, [] => .error (.valueMissing name)
        else
          match attached with
          | some _ => .error (.valueUnexpected name)
          | none => (sortWords known rest).map (·.addFlag flag "")
    else (sortWords known rest).map (·.addPlain word)

def usage : String :=
  "Usage: numbering-plan COMMAND DOCUMENT [OPTIONS]\n"
    ++ "  build          compile a document (--lite, --special, --config, --workers, --format,"
    ++ " --verbose)\n"
    ++ "  country-codes  print the regions of each country code (--config)\n"

def soleDocument : List String → Except Misuse String
  | [] => .error .noDocument
  | [document] => .ok document
  | _ :: word :: _ => .error (.extraWord word)

def readWorkers (value : String) : Except Misuse WorkerCount :=
  match Integer.read value.toList with
  | .ok workers =>
    if enough : 1 ≤ workers then .ok ⟨workers, enough⟩ else .error (.badWorkers value)
  | .error _ => .error (.badWorkers value)

def readFormat (value : String) : Except Misuse OutputFormat :=
  if value == "text" then .ok .text
  else if value == "json" then .ok .json
  else .error (.badFormat value)

def readBuild (rest : List String) : Except Misuse Command := do
  let words ← sortWords Flag.ofBuild rest
  if words.has .help then .ok (.answered usage)
  else
    let document ← soleDocument words.plain
    let workers ← (words.value? .workers).mapM readWorkers
    let format ← (words.value? .format).mapM readFormat
    .ok (.build
      { document
        lite := words.has .lite
        special := words.has .special
        verbose := words.has .verbose
        config := words.value? .config
        workers
        format := format.getD .text })

def readCountryCodes (rest : List String) : Except Misuse Command := do
  let words ← sortWords Flag.ofCountryCodes rest
  if words.has .help then .ok (.answered usage)
  else .ok (.countryCodes (← soleDocument words.plain) (words.value? .config))

def readNamed : List String → Except Misuse Command
  | [] => .error .noCommand
  | "build" :: rest => readBuild rest
  | "country-codes" :: rest => readCountryCodes rest
  | name :: _ => .error (.unknownCommand name)

def readWords : List String → Except Misuse Command
  | "--help" :: _ => .ok (.answered usage)
  | "--" :: rest => readNamed rest
  | word :: rest =>
    if isOption word then .error (.unknownOption (splitOption word).1) else readNamed (word :: rest)
  | [] => .error .noCommand

end NumberingPlan.Command
