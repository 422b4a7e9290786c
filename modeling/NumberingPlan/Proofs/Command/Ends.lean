import NumberingPlan.Outcome
import NumberingPlan.Proofs.Collection.Sequence
import NumberingPlan.Proofs.Diagnostic.Told
import NumberingPlan.Proofs.Territory.Faults
import NumberingPlan.Standard

/-! How a command ends that asks for no file of settings. It prints the collection, or it tells
one rejection, or it ends without a word: where the reader of documents stops, or where a numeral or
a pattern inside a territory stops its reader. It ends in no other way, whatever the document
holds. -/

namespace NumberingPlan

open Fallible
open Xml (Element)

theorem Document.ofFile_ok [DocumentReader] {read : FileReader} {name : String}
    {document : Document}
    (opened : Document.ofFile read name = .ok document) :
    ∃ bytes root, read (Path.ofText name) = .ok bytes ∧
      DocumentReader.ofBytes bytes = .ok root ∧ document = .ofElement root := by
  unfold Document.ofFile at opened
  split at opened
  · cases opened
  · dsimp only at opened
    split at opened
    · cases opened
    · next bytes found =>
      obtain ⟨root, parsed, rfl⟩ := map_ok.1 (mapError_ok.1 opened)
      exact ⟨bytes, root, found, parsed, rfl⟩

section Faults

variable [DocumentReader] [PatternReader]

/-- A limit that is reached in what is found at the path of the document: by the reader of
documents, or at a text of a territory. -/
inductive Limit.ReachedIn (file : Except ReadFault (List UInt8)) : Limit → Prop where
  | reading {bytes : List UInt8} {stop : Stop} (found : file = .ok bytes)
      (stopped : DocumentReader.ofBytes bytes = .error (.stopped stop)) :
      ReachedIn file (.document stop)
  | text {bytes : List UInt8} {root element : Element} {text : String} {bound : Limit}
      (found : file = .ok bytes) (read : DocumentReader.ofBytes bytes = .ok root)
      (inside : element ∈ root.findAll "territory") (written : element.HasText text)
      (reached : bound.ReachedAt text) : ReachedIn file bound

/-- A fault of a document, in words if it is a rejection. -/
inductive Fault.OfDocument (file : Except ReadFault (List UInt8)) : Fault → Prop where
  | rejected {rejection : Rejection} (words : rejection.message ≠ "") :
      OfDocument file (.rejected rejection)
  | limit {bound : Limit} (reached : bound.ReachedIn file) : OfDocument file (.limit bound)

theorem Fault.OfDocument.words {file : Except ReadFault (List UInt8)} {fault : Fault}
    (known : fault.OfDocument file) :
    ∀ rejection, fault = .rejected rejection → rejection.message ≠ "" := by
  rintro rejection rfl
  cases known with
  | rejected words => exact words

theorem Fault.RaisedIn.ofDocument {file : Except ReadFault (List UInt8)} {bytes : List UInt8}
    {root element : Element} {fault : Fault} (raised : fault.RaisedIn element)
    (found : file = .ok bytes) (read : DocumentReader.ofBytes bytes = .ok root)
    (inside : element ∈ root.findAll "territory") (label : String) :
    (fault.inTerritory label).OfDocument file := by
  cases raised with
  | rejected words => exact .rejected (by simpa using words)
  | limit written reached => exact .limit (.text found read inside written reached)

theorem Document.ofFile_fails (read : FileReader) {name : String}
    (named : '\x00' ∉ name.toList) :
    FailsOnly (Fault.OfDocument (read (Path.ofText name))) (Document.ofFile read name) := by
  unfold Document.ofFile
  rw [if_neg (by simpa using named)]
  dsimp only
  split
  · exact .error (.rejected (by simp))
  · next bytes found =>
    refine .mapError fun fault failed => ?_
    cases fault with
    | malformed words => exact .rejected (by simp)
    | stopped stop => exact .limit (.reading found (map_error.1 failed))

theorem Profile.filter_fails {file : Except ReadFault (List UInt8)} (profile : Profile) :
    FailsOnly (Fault.OfDocument file) profile.filter := by
  unfold Profile.filter
  split
  · exact .error (.rejected (by simp))
  all_goals exact .ok _

theorem build_fails {read : FileReader} {name : String} {document : Document}
    (opened : Document.ofFile read name = .ok document) (profile : Profile) {workers : Int}
    (enough : 1 ≤ workers) :
    FailsOnly (Fault.OfDocument (read (Path.ofText name)))
      (build document profile workers).result := by
  obtain ⟨bytes, root, found, parsed, rfl⟩ := Document.ofFile_ok opened
  rw [build_result _ profile enough]
  refine .bind profile.filter_fails fun filter => .mapM fun element inside fault failed => ?_
  obtain ⟨raised, resolved, rfl⟩ := mapError_error.1 (compileFiltered_error.1 failed)
  exact (resolveTerritory_fails _ element _ raised resolved).ofDocument found parsed inside _

end Faults

namespace Outcome

/-- The text that tells a diagnostic in a format. -/
def toldText (document : String) (format : OutputFormat) (event : Diagnostic) : String :=
  match format with
  | .text => plainLine (diagnosticText event)
  | .json => line (failureJson document event.json).text

/-- A diagnostic that is written as it is is told. -/
theorem failure_ok {document : String} {format : OutputFormat} {event : Diagnostic}
    (written : event.dump = .ok event.json) :
    failure document format (.ok event) =
      { exitCode := 2, output := toldText document format event } := by
  rw [failure, ok_bind, told.eq_def, toldText.eq_def]
  cases format with
  | text => rfl
  | json =>
    rw [written]
    rfl

end Outcome

/-- What a command asks for that names no file of settings. -/
structure Request where
  document : String
  profile : Profile := {}
  workers : WorkerCount := ⟨1, by decide⟩
  format : OutputFormat := .text
  print : Collection → String

/-- The request of a command without settings. -/
def Command.request? : Command → Option Request
  | .build request =>
    if request.config.isNone then some
      { document := request.document
        profile := ⟨request.lite, request.special⟩
        workers := request.workers.getD ⟨1, by decide⟩
        format := request.format
        print := Outcome.buildText request.format }
    else none
  | .countryCodes document none => some { document, print := Outcome.countryCodesText }
  | _ => none

namespace Request

/-- A diagnostic as it is told in the format that is asked for. -/
def told (request : Request) (event : Diagnostic) : String :=
  Outcome.toldText request.document request.format event

section Result

variable [DocumentReader] [PatternReader]

/-- What becomes of the document. -/
def result (request : Request) (place : Place) : Except Fault Collection := do
  let document ← Document.ofFile place.read request.document
  (build document request.profile request.workers).result

/-- How a request ends, by what becomes of its document. -/
inductive Ends (request : Request) (place : Place) : Except Fault Collection → Outcome → Prop where
  | printed (collection : Collection) (notes : List String) :
      Ends request place (.ok collection)
        { exitCode := 0, output := request.print collection, escaped := none, notes }
  | told (rejection : Rejection) (event : Diagnostic) (diagnosed : rejection.diagnostic = .ok event)
      (notes : List String) :
      Ends request place (.error (.rejected rejection))
        { exitCode := 2, output := request.told event, escaped := none, notes }
  | escaped (bound : Limit) (reached : bound.ReachedIn (place.read (Path.ofText request.document)))
      (notes : List String) :
      Ends request place (.error (.limit bound))
        { exitCode := 1, output := "", escaped := some bound, notes }

variable {request : Request} {place : Place}

theorem Ends.of_fault {fault : Fault}
    (known : fault.OfDocument (place.read (Path.ofText request.document))) (notes : List String) :
    let outcome := (BuildFault.ofDocument fault).outcome request.document request.format
    request.Ends place (.error fault) { outcome with notes := notes ++ outcome.notes } := by
  cases known with
  | rejected words =>
    rename_i rejection
    have diagnosed := Rejection.diagnostic_eq words
    rw [BuildFault.ofDocument, BuildFault.outcome, diagnosed,
      Outcome.failure_ok (Rejection.dump_eq diagnosed)]
    exact .told rejection _ diagnosed _
  | limit reached => exact .escaped _ reached _

theorem ends_report [SettingsReader] {asked : Settings.Override} {settings : Settings}
    (given : place.settings none asked = .ok settings)
    (profile : settings.profile = request.profile)
    (workers : (settings.workers : Int) = request.workers)
    (named : '\x00' ∉ request.document.toList) (verbose : Bool) :
    request.Ends place (request.result place)
      (place.report request.document none asked request.format verbose request.print) := by
  unfold Place.report Place.compile result
  rw [given, ok_bind, profile, workers]
  cases opened : Document.ofFile place.read request.document with
  | error fault => exact Ends.of_fault (Document.ofFile_fails _ named fault opened) []
  | ok document =>
    have known := build_fails opened request.profile request.workers.property
    simp only [ok_bind, Except.mapError]
    cases built : (build document request.profile request.workers).result with
    | error fault => exact Ends.of_fault (known fault built) _
    | ok collection => exact .printed collection _

end Result

end Request

section Reading

theorem Settings.make_ok (lite special : Bool) {workers : Int} (enough : 1 ≤ workers)
    (path : Option String) :
    ∃ settings, make lite special workers path = .ok settings ∧
      settings.profile = ⟨lite, special⟩ ∧ (settings.workers : Int) = workers := by
  rw [make, dif_pos enough]
  exact ⟨_, rfl, rfl, Int.toNat_of_nonneg (by omega)⟩

/-- Without a file the settings are what is asked for. -/
theorem Place.settings_none [SettingsReader] (place : Place) (asked : Settings.Override)
    (enough : 1 ≤ asked.workers.getD 1) :
    ∃ settings, place.settings none asked = .ok settings ∧
      settings.profile = ⟨asked.lite.getD false, asked.special.getD false⟩ ∧
      (settings.workers : Int) = asked.workers.getD 1 := by
  obtain ⟨settings, made, known⟩ :=
    Settings.make_ok (asked.lite.getD false) (asked.special.getD false) enough none
  refine ⟨settings, ?_, known⟩
  simp [Place.settings, Settings.load, Settings.override, made, Except.mapError]

namespace Command

/-- Whatever bytes the document has, a command without settings prints the collection, or tells one
rejection, or ends where a reader stops: that of documents, or one of numerals and patterns at a
text of a territory. -/
theorem runWords_ends [CommandReader] [SettingsReader] [DocumentReader] [PatternReader]
    (place : Place) {words : List String} {command : Command} {request : Request}
    (read : CommandReader.read words = .ok command) (plain : command.request? = some request)
    (named : '\x00' ∉ request.document.toList) :
    request.Ends place (request.result place) (runWords place words) := by
  rw [runWords, read, runRead]
  cases command with
  | answered text => cases plain
  | countryCodes document config =>
    cases config with
    | some name => cases plain
    | none =>
      cases plain
      obtain ⟨settings, given, profile, workers⟩ := place.settings_none {} (by decide)
      exact Request.ends_report given profile workers named false
  | build asked =>
    have workers : asked.asked.workers.getD 1 = (asked.workers.getD ⟨1, by decide⟩).val := by
      unfold BuildRequest.asked
      cases asked.workers <;> rfl
    obtain ⟨settings, given, profile, counted⟩ :=
      place.settings_none asked.asked (workers ▸ (asked.workers.getD ⟨1, by decide⟩).property)
    have flag (given : Bool) : (if given then some true else none).getD false = given := by
      cases given <;> rfl
    have unset : asked.config = none := by
      by_contra set
      simp [request?, set] at plain
    rw [run, unset]
    simp only [request?, unset, Option.isNone_none, if_true, Option.some.injEq] at plain
    subst plain
    exact Request.ends_report given (by simpa [BuildRequest.asked, flag] using profile)
      (counted.trans workers) named asked.verbose

open scoped Standard

/-- A place where every path leads to the same text. -/
def holding (text : String) : Place := { read := fun _ => .ok text.toUTF8.toList }

/-- A territory without a calling code. -/
def uncoded : String := "<m><territory id=\"A\"/></m>"

def uncodedWords : List String := ["build", "--lite", "d.xml", "--workers", "2", "--format=json"]

def uncodedBuild : Command :=
  .build { document := "d.xml", lite := true, workers := some ⟨2, by decide⟩, format := .json }

theorem runWords_ends_uncoded :
    ∃ request, CommandReader.read uncodedWords = .ok uncodedBuild ∧
      uncodedBuild.request? = some request ∧ '\x00' ∉ request.document.toList ∧
      request.Ends (holding uncoded) (request.result (holding uncoded))
        (runWords (holding uncoded) uncodedWords) := by
  have read : CommandReader.read uncodedWords = .ok uncodedBuild := by decide +kernel
  have named : '\x00' ∉ "d.xml".toList := by decide
  exact ⟨_, read, rfl, named, runWords_ends _ read rfl named⟩

/-- A pattern that repeats more often than the reader of patterns counts. -/
def overRepeated : String :=
  "<m><territory id=\"A\" countryCode=\"1\" leadingDigits=\"a\x7b4294967295\x7d\"/></m>"

theorem runWords_overRepeated :
    runWords (holding overRepeated) ["build", "d.xml"] =
      { exitCode := 1, output := ""
        escaped := some (.pattern ⟨"OverflowError", "the repetition number is too large"⟩)
        notes := ["the repetition number is too large"] } := by
  decide +kernel

end Command

end Reading

end NumberingPlan
