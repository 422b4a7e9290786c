import NumberingPlan.Proofs.Collection.Shared
import NumberingPlan.Proofs.Command.Job
import NumberingPlan.Proofs.Settings.Reading

/-! Which of several faults a command tells. Everything that is wrong is listed stage by stage, each
stage by itself: the file of settings, the document, the profile, and the territories in document
order. The command tells the first of the list, and if there is none it prints the collection. -/

namespace NumberingPlan

open Fallible

def Profile.conflict : Rejection :=
  { code := .flagsConflict, input := "lite_build=true,special_build=true",
    message := "lite_build and special_build may not both be set" }

def Profile.faults (profile : Profile) : List Fault :=
  if profile.lite && profile.special then [.rejected conflict] else []

/-- The faults of all territories that fail, whatever the profile. -/
def Document.faults [PatternReader] (document : Document) : List Fault :=
  Fallible.faults (compileElement document.variant) document.territories

/-- What a build makes with any number of workers, in whatever order they come back. -/
def Document.Makes [PatternReader] (document : Document) (profile : Profile)
    (collection : Collection) : Prop :=
  ∀ workers : Nat, 1 ≤ workers →
    (build document profile workers).result = .ok collection ∧
      ∀ moves outcome, buildShared document profile workers moves = some outcome →
        outcome = .ok collection

theorem Profile.filter_faults (profile : Profile) :
    (∃ filter, profile.filter = .ok filter ∧ profile.faults = []) ∨
      (profile.filter = .error (.rejected conflict) ∧ profile.faults = [.rejected conflict]) := by
  obtain ⟨lite, special⟩ := profile
  cases lite <;> cases special
  · exact .inl ⟨_, rfl, rfl⟩
  · exact .inl ⟨_, rfl, rfl⟩
  · exact .inl ⟨_, rfl, rfl⟩
  · exact .inr ⟨rfl, rfl⟩

section Build

variable [PatternReader] {document : Document} {profile : Profile} {workers : Int}

/-- No filter hides a fault, and none adds one. -/
theorem faults_compileFiltered (document : Document) (filter : Filter) :
    Fallible.faults (compileFiltered document.variant filter) document.territories =
      document.faults := by
  unfold Document.faults Fallible.faults
  congr 1
  funext element
  unfold compileFiltered
  cases compileElement document.variant element <;> rfl

/-- A build fails with the first of its faults. -/
theorem build_error_iff_head (enough : 1 ≤ workers) {fault : Fault} :
    (build document profile workers).result = .error fault ↔
      (profile.faults ++ document.faults).head? = some fault := by
  rw [build_result document profile enough]
  rcases profile.filter_faults with ⟨filter, chosen, none⟩ | ⟨refused, one⟩
  · rw [chosen, none, ok_bind, List.nil_append, mapM_error_iff_head, faults_compileFiltered]
  · rw [refused, one, error_bind]
    simp

theorem build_of_faultless (faultless : profile.faults ++ document.faults = []) :
    ∃ collection, document.Makes profile collection := by
  have one : (1 : Int) ≤ 1 := le_refl 1
  cases built : (build document profile 1).result with
  | error fault =>
    have first := (build_error_iff_head one).1 built
    rw [faultless] at first
    cases first
  | ok collection =>
    refine ⟨collection, fun workers positive => ⟨?_, fun moves outcome handed => ?_⟩⟩
    · rw [build_result _ _ (by exact_mod_cast positive), ← build_result _ _ one, built]
    · rw [buildShared_outcome positive handed, built]

end Build

namespace Job

section Faults

variable [SettingsReader] [DocumentReader] [PatternReader] (job : Job) (place : Place)

def settingsFaults : List BuildFault :=
  match job.filed place with
  | .ok _ => []
  | .error fault => [.ofSettings fault]

def documentFaults : List BuildFault :=
  match job.opened place with
  | .ok _ => []
  | .error fault => [.ofDocument fault]

def profileFaults : List BuildFault :=
  match job.filed place with
  | .ok filed => (job.profile filed).faults.map .ofDocument
  | .error _ => []

def territoryFaults : List BuildFault :=
  match job.opened place with
  | .ok document => document.faults.map .ofDocument
  | .error _ => []

/-- All that is wrong, in the order of the stages. -/
def faults : List BuildFault :=
  job.settingsFaults place ++ job.documentFaults place ++ job.profileFaults place
    ++ job.territoryFaults place

/-- What is noted of a build with the profile and the workers that flags and file ask for. -/
def notes (filed : Settings) (document : Document) : List String :=
  (build document (job.profile filed) (job.count filed)).log.filterMap
    (LogRecord.note? job.verbose)

end Faults

section Tells

variable {job : Job} {place : Place}

theorem tells_document {fault : Fault}
    (words : ∀ rejection, fault = .rejected rejection → rejection.message ≠ "")
    (notes : List String) :
    let outcome := (BuildFault.ofDocument fault).outcome job.document job.format
    job.Tells (.ofDocument fault) { outcome with notes := notes ++ outcome.notes } := by
  cases fault with
  | limit bound => exact .limit bound _
  | rejected rejection =>
    obtain ⟨event, diagnosed, told⟩ := job.outcome_document (words rejection rfl)
    rw [BuildFault.ofDocument, told]
    exact .event (.document diagnosed) _

theorem filed_words [SettingsReader] {rejection : SettingsRejection}
    (refused : job.filed place = .error (.rejected rejection)) : rejection.message ≠ "" := by
  cases named : job.config with
  | none =>
    rw [filed, named] at refused
    cases refused
  | some name =>
    by_cases whole : '\x00' ∈ name.toList
    · rw [filed, named, Settings.load, if_pos (by simpa using whole)] at refused
      cases refused
    · rw [filed_named named whole] at refused
      exact (Settings.ofFile_reads _ _).words refused

theorem tells_unfiled [SettingsReader] [DocumentReader] [PatternReader] {fault : Settings.Fault}
    (unfiled : job.filed place = .error fault) :
    job.Tells (.ofSettings fault) (job.run place) := by
  rw [run_of_unfiled unfiled]
  cases fault with
  | limit bound => exact .limit bound _
  | rejected rejection =>
    obtain ⟨event, diagnosed, -, told⟩ := job.outcome_settings (filed_words unfiled)
    rw [BuildFault.ofSettings, told]
    exact .event (.settings diagnosed) []

end Tells

end Job

theorem Document.ofFile_words [DocumentReader] [PatternReader] {read : FileReader} {name : String}
    {fault : Fault}
    (failed : Document.ofFile read name = .error fault) :
    ∀ rejection, fault = .rejected rejection → rejection.message ≠ "" := by
  by_cases named : '\x00' ∈ name.toList
  · rw [Document.ofFile, if_pos (by simpa using named)] at failed
    cases failed
    nofun
  · exact (Document.ofFile_fails read named fault failed).words

namespace Job

section Run

variable [SettingsReader] [DocumentReader] [PatternReader] {job : Job} {place : Place}

/-- A job whose settings are known comes to what becomes of its document. -/
theorem run_of_settings {settings : Settings}
    (given : place.settings job.config job.asked = .ok settings) :
    job.run place =
      match job.opened place with
      | .error fault => (BuildFault.ofDocument fault).outcome job.document job.format
      | .ok document =>
        let built := build document settings.profile settings.workers
        let outcome := match built.result with
          | .error fault => (BuildFault.ofDocument fault).outcome job.document job.format
          | .ok collection => .success (job.print collection)
        { outcome with
          notes := built.log.filterMap (LogRecord.note? job.verbose) ++ outcome.notes } := by
  unfold run Place.report Place.compile opened
  rw [given, ok_bind]
  cases Document.ofFile place.read job.document <;> rfl

theorem tells_first {first : BuildFault}
    (leads : (job.faults place).head? = some first) : job.Tells first (job.run place) := by
  obtain ⟨later, wrong⟩ := List.head?_eq_some_iff.1 leads
  unfold faults settingsFaults documentFaults profileFaults territoryFaults at wrong
  cases known : job.filed place with
  | error fault =>
    simp only [known, List.cons_append, List.cons.injEq] at wrong
    exact wrong.1 ▸ tells_unfiled known
  | ok filed =>
    obtain ⟨settings, given, same, -⟩ := settings_of_filed known
    rw [run_of_settings given]
    cases read : job.opened place with
    | error fault =>
      simp only [known, read, List.nil_append, List.cons_append, List.cons.injEq] at wrong
      rw [← wrong.1]
      exact tells_document (Document.ofFile_words read) []
    | ok document =>
      simp only [known, read, List.nil_append, ← List.map_append, ← same] at wrong
      obtain ⟨fault, rest, failing, rfl, -⟩ := List.map_eq_cons_iff.1 wrong
      have positive : (1 : Int) ≤ settings.workers := by exact_mod_cast settings.positive
      have failed : (build document settings.profile settings.workers).result = .error fault :=
        (build_error_iff_head positive).2 (by rw [failing, List.head?_cons])
      simp only [failed]
      exact tells_document (build_fails read _ positive fault failed).words _

theorem run_of_makes {filed : Settings}
    {document : Document} {collection : Collection} (known : job.filed place = .ok filed)
    (read : job.opened place = .ok document)
    (made : document.Makes (job.profile filed) collection) :
    job.run place =
      { exitCode := 0, output := job.print collection, notes := job.notes filed document } := by
  obtain ⟨settings, given, same, counted⟩ := settings_of_filed known
  have built := (made settings.workers settings.positive).1
  rw [run_of_settings given, read]
  simp only [same, built, Outcome.success, List.append_nil, notes, ← counted]
  rfl

/-- Without a fault the document has a collection, whatever the number of workers and the order in
which they come back. -/
theorem makes_of_faultless (faultless : job.faults place = []) :
    ∃ filed document collection, job.filed place = .ok filed ∧ job.opened place = .ok document ∧
      document.Makes (job.profile filed) collection := by
  unfold faults settingsFaults documentFaults profileFaults territoryFaults at faultless
  cases known : job.filed place with
  | error fault => simp [known] at faultless
  | ok filed =>
    cases read : job.opened place with
    | error fault => simp [known, read] at faultless
    | ok document =>
      simp only [known, read, List.nil_append, ← List.map_append, List.map_eq_nil_iff] at faultless
      obtain ⟨collection, made⟩ := build_of_faultless faultless
      exact ⟨filed, document, collection, rfl, rfl, made⟩

end Run

end Job

namespace Command

/-- The settings of a command are those of its file, save what its flags ask for. Of all that is
wrong the command tells the first alone, by stages. If nothing is wrong it prints the collection
that any number of workers makes of the document with these settings; a build in its own form
prints the text of the collection. -/
theorem runWords_stages [CommandReader] [SettingsReader] [DocumentReader] [PatternReader]
    (place : Place) {words : List String} {command : Command} {job : Job}
    (read : CommandReader.read words = .ok command) (asks : command.job? = some job) :
    (∀ filed, job.filed place = .ok filed → ∃ settings,
      place.settings job.config job.asked = .ok settings ∧ job.Effective filed settings) ∧
    (∀ first, (job.faults place).head? = some first → job.Tells first (runWords place words)) ∧
    (job.faults place = [] → ∃ filed document collection,
      job.filed place = .ok filed ∧ job.opened place = .ok document ∧
      document.Makes (job.profile filed) collection ∧
      runWords place words =
        { exitCode := 0, output := job.print collection, notes := job.notes filed document } ∧
      ∀ request, command = .build request → request.format = .json →
        job.print collection = collection.text ++ "\n") := by
  rw [runWords_job read asks]
  refine ⟨fun filed known => Job.settings_of_filed known,
    fun first leads => Job.tells_first leads, fun faultless => ?_⟩
  obtain ⟨filed, document, collection, known, opened, made⟩ := Job.makes_of_faultless faultless
  have printed := Job.run_of_makes known opened made
  refine ⟨filed, document, collection, known, opened, made, printed, ?_⟩
  rintro request rfl inJson
  cases asks
  rw [inJson]
  rfl

open scoped Standard

/-- A place with one document, where every other file holds settings. -/
def settled (document settings : String) : Place :=
  { read := fun path =>
      .ok (if path = Path.ofText "d.xml" then document else settings).toUTF8.toList }

/-- Two territories that fail. -/
def twoUncoded : String := "<m><territory id=\"A\"/><territory id=\"B\"/></m>"

def conflictingWords : List String := ["build", "--lite", "d.xml", "--config", "c.yaml"]

def conflictingBuild : Command :=
  .build { document := "d.xml", lite := true, config := some "c.yaml" }

/-- A flag contradicts the file of settings, and both territories fail: the conflict is told. -/
theorem runWords_stages_conflict :
    let place := settled twoUncoded "build: \x7bspecial_build: true\x7d"
    ∃ job, CommandReader.read conflictingWords = .ok conflictingBuild ∧
      conflictingBuild.job? = some job ∧ (job.faults place).length = 3 ∧
      job.Tells (.document Profile.conflict) (runWords place conflictingWords) := by
  intro place
  have read : CommandReader.read conflictingWords = .ok conflictingBuild := by decide +kernel
  refine ⟨_, read, rfl, by decide +kernel, ?_⟩
  obtain ⟨-, tells, -⟩ := runWords_stages place read rfl
  exact tells _ (by decide +kernel)

end Command

end NumberingPlan
