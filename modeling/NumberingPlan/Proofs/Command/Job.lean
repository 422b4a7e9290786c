import NumberingPlan.Proofs.Command.Ends

/-! What a command works on, the settings that it works with, and how it tells what is wrong. -/

namespace NumberingPlan

open Fallible

/-- The diagnostic of a rejection, be it of settings or of a document. -/
inductive BuildFault.Means : BuildFault → Diagnostic → Prop where
  | settings {rejection : SettingsRejection} {event : Diagnostic}
      (diagnosed : rejection.diagnostic = .ok event) : Means (.settings rejection) event
  | document {rejection : Rejection} {event : Diagnostic}
      (diagnosed : rejection.diagnostic = .ok event) : Means (.document rejection) event

/-- What a command asks for, unless its line is answered by the reader. -/
structure Job where
  document : String
  config : Option String := none
  lite : Bool := false
  special : Bool := false
  workers : Option WorkerCount := none
  format : OutputFormat := .text
  verbose : Bool := false
  print : Collection → String

def Command.job? : Command → Option Job
  | .answered _ => none
  | .build request => some
      { document := request.document
        config := request.config
        lite := request.lite
        special := request.special
        workers := request.workers
        format := request.format
        verbose := request.verbose
        print := Outcome.buildText request.format }
  | .countryCodes document config =>
    some { document, config, print := Outcome.countryCodesText }

namespace Job

variable (job : Job) (place : Place)

def asked : Settings.Override :=
  { lite := if job.lite then some true else none
    special := if job.special then some true else none
    workers := job.workers.map (·.val) }

/-- The profile that a flag or the file asks for. -/
def profile (filed : Settings) : Profile := ⟨job.lite || filed.lite, job.special || filed.special⟩

/-- The number of workers that a flag or the file asks for. -/
def count (filed : Settings) : Int := (job.workers.map (·.val)).getD filed.workers

def told (event : Diagnostic) : String :=
  Outcome.toldText job.document job.format event

/-- How a fault is told: a rejection as one diagnostic, a limit without a word. -/
inductive Tells : BuildFault → Outcome → Prop where
  | event {fault : BuildFault} {event : Diagnostic} (means : fault.Means event)
      (notes : List String) : Tells fault { exitCode := 2, output := job.told event, notes }
  | limit (bound : Limit) (notes : List String) :
      Tells (.limit bound) { exitCode := 1, escaped := some bound, notes }

/-- The settings of a run by those of its file: a flag that is given counts. -/
structure Effective (filed settings : Settings) : Prop where
  profile : settings.profile = job.profile filed
  workers : (settings.workers : Int) = job.count filed

def opened [DocumentReader] : Except Fault Document := Document.ofFile place.read job.document

section Run

variable [SettingsReader]

/-- The settings of the file that is named, the usual ones if none is. -/
def filed : Except Settings.Fault Settings :=
  (Settings.load place.read place.working [] job.config).1

variable [DocumentReader] [PatternReader]

def run : Outcome :=
  place.report job.document job.config job.asked job.format job.verbose job.print

end Run

end Job

theorem Command.runWords_job [CommandReader] [SettingsReader] [DocumentReader] [PatternReader]
    {place : Place} {words : List String} {command : Command} {job : Job}
    (read : CommandReader.read words = .ok command) (asks : command.job? = some job) :
    Command.runWords place words = job.run place := by
  rw [runWords, read, runRead]
  cases command with
  | answered text => cases asks
  | build request =>
    cases asks
    rfl
  | countryCodes document config =>
    cases asks
    rfl

section Telling

variable {job : Job} {place : Place}

theorem Job.outcome_settings {rejection : SettingsRejection} (words : rejection.message ≠ "") :
    ∃ event, rejection.diagnostic = .ok event ∧ event.code = rejection.code.text ∧
      (BuildFault.settings rejection).outcome job.document job.format =
        { exitCode := 2, output := job.told event } := by
  have diagnosed := SettingsRejection.diagnostic_eq words
  refine ⟨_, diagnosed, rfl, ?_⟩
  rw [BuildFault.outcome, diagnosed, Outcome.failure_ok (SettingsRejection.dump_eq diagnosed)]
  rfl

theorem Job.outcome_document {rejection : Rejection} (words : rejection.message ≠ "") :
    ∃ event, rejection.diagnostic = .ok event ∧
      (BuildFault.document rejection).outcome job.document job.format =
        { exitCode := 2, output := job.told event } := by
  have diagnosed := Rejection.diagnostic_eq words
  refine ⟨_, diagnosed, ?_⟩
  rw [BuildFault.outcome, diagnosed, Outcome.failure_ok (Rejection.dump_eq diagnosed)]
  rfl

theorem Job.filed_named [SettingsReader] {name : String} (named : job.config = some name)
    (whole : '\x00' ∉ name.toList) :
    job.filed place =
      Settings.ofFile place.read (Path.resolve place.working (Path.ofText name)) := by
  unfold Job.filed
  rw [named, Settings.load]
  simp only [List.contains_iff_mem, whole, if_false, List.lookup_nil]
  cases Settings.ofFile place.read (Path.resolve place.working (Path.ofText name)) <;> rfl

/-- Nothing is compiled when the settings of the file are not known. -/
theorem Job.run_of_unfiled [SettingsReader] [DocumentReader] [PatternReader]
    {fault : Settings.Fault} (unfiled : job.filed place = .error fault) :
    job.run place = (BuildFault.ofSettings fault).outcome job.document job.format := by
  have stopped : place.settings job.config job.asked = .error (.ofSettings fault) := by
    unfold Place.settings
    rw [show (Settings.load place.read place.working [] job.config).1 = .error fault from unfiled]
  unfold Job.run Place.report Place.compile
  rw [stopped, error_bind]

/-- Settings that are known are used as they are where nothing else is asked for. -/
theorem Job.settings_of_filed [SettingsReader] {filed : Settings}
    (known : job.filed place = .ok filed) :
    ∃ settings, place.settings job.config job.asked = .ok settings ∧
      job.Effective filed settings := by
  have positive : 1 ≤ job.count filed := by
    unfold Job.count
    cases job.workers with
    | none => exact Int.ofNat_le.2 filed.positive
    | some workers => exact workers.property
  have flag (given own : Bool) : (if given then some true else none).getD own = (given || own) := by
    cases given <;> rfl
  obtain ⟨settings, made, profile, workers⟩ :=
    Settings.make_ok (job.lite || filed.lite) (job.special || filed.special) positive filed.path
  refine ⟨settings, ?_, profile, workers⟩
  have overridden : filed.override job.asked = .ok settings := by
    rw [Settings.override, Job.asked, flag, flag]
    exact made
  unfold Place.settings
  rw [show (Settings.load place.read place.working [] job.config).1 = .ok filed from known]
  simp only [overridden, Except.mapError]

end Telling

end NumberingPlan
