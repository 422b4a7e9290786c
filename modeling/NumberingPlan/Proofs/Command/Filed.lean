import NumberingPlan.Proofs.Command.Job
import NumberingPlan.Proofs.Settings.Reading

/-! A command that names a file of settings. Whatever the file holds, its settings are known, or
they are refused in one diagnostic, unless the file is no text or its text stops the reader of
settings: then the command ends without a word. -/

namespace NumberingPlan.Command

/-- What the file holds decides what becomes of its settings. When they are refused the command
tells the refusal alone, with its own code. Only a file without a text, or with one that stops the
reader of settings, ends the command at a limit. -/
theorem runWords_filed [CommandReader] [SettingsReader] [DocumentReader] [PatternReader]
    (place : Place) {words : List String} {command : Command} {job : Job} {name : String}
    (read : CommandReader.read words = .ok command) (asks : command.job? = some job)
    (named : job.config = some name) (whole : '\x00' ∉ name.toList) :
    let path := Path.resolve place.working (Path.ofText name)
    Settings.Reads path (place.read path) (job.filed place) ∧
      (∀ rejection, job.filed place = .error (.rejected rejection) →
        ∃ event, rejection.diagnostic = .ok event ∧
          event.code ∈ ["E_BUILD_CONFIG_READ_FAILED", "E_BUILD_CONFIG_PARSE_FAILED",
            "E_BUILD_CONFIG_INVALID"] ∧
          runWords place words = { exitCode := 2, output := job.told event }) ∧
      (∀ bound, job.filed place = .error (.limit bound) →
        runWords place words =
          { exitCode := 1, output := "", escaped := some bound, notes := [bound.message] }) ∧
      ((∃ bound, job.filed place = .error (.limit bound)) ↔
        ∃ bytes, place.read path = .ok bytes ∧ Settings.Unusable bytes) := by
  intro path
  have reads : Settings.Reads path (place.read path) (job.filed place) := by
    rw [Job.filed_named named whole]
    exact Settings.ofFile_reads place.read path
  refine ⟨reads, ?_, ?_, reads.limit_iff⟩
  · intro rejection refused
    obtain ⟨event, diagnosed, code, told⟩ := job.outcome_settings (reads.words refused)
    refine ⟨event, diagnosed, ?_, ?_⟩
    · rw [code]
      cases rejection.code <;> decide
    · rw [runWords_job read asks, Job.run_of_unfiled refused]
      exact told
  · intro bound stopped
    rw [runWords_job read asks, Job.run_of_unfiled stopped]
    rfl

open scoped Standard

def filedWords : List String := ["build", "d.xml", "--config", "c.yaml"]

def filedBuild : Command := .build { document := "d.xml", config := some "c.yaml" }

/-- A file whose section for builds is a number. -/
theorem runWords_filed_numbered :
    ∃ job, CommandReader.read filedWords = .ok filedBuild ∧ filedBuild.job? = some job ∧
      job.config = some "c.yaml" ∧ '\x00' ∉ "c.yaml".toList ∧
      ∃ event : Diagnostic, event.code ∈ ["E_BUILD_CONFIG_READ_FAILED",
          "E_BUILD_CONFIG_PARSE_FAILED", "E_BUILD_CONFIG_INVALID"] ∧
        runWords (holding "build: 3") filedWords = { exitCode := 2, output := job.told event } := by
  have read : CommandReader.read filedWords = .ok filedBuild := by decide +kernel
  have whole : '\x00' ∉ "c.yaml".toList := by decide
  refine ⟨_, read, rfl, rfl, whole, ?_⟩
  obtain ⟨-, refusal, -, -⟩ :=
    runWords_filed (holding "build: 3") read rfl rfl whole
  obtain ⟨event, -, code, told⟩ := refusal
    { code := .invalid, message := "invalid mapping for key 'build'" } (by decide +kernel)
  exact ⟨event, code, told⟩

/-- A date in a month that there is not has no value, and the command ends without a word. -/
theorem runWords_monthless :
    runWords (holding "build: 2024-13-01") filedWords =
      { exitCode := 1, output := ""
        escaped := some (.settings ⟨"ValueError", "month must be in 1..12"⟩)
        notes := ["month must be in 1..12"] } := by
  decide +kernel

end NumberingPlan.Command
