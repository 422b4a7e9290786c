import NumberingPlan.Proofs.Collection.Regions
import NumberingPlan.Proofs.Command.Stages
import NumberingPlan.Proofs.Pattern.Complaints
import NumberingPlan.Proofs.Territory.Compression

/-! What a command prints as text, line by line. Regions and messages go into the lines as they are,
so that the output keeps to its lines where none of them holds a line feed, and nowhere else. -/

namespace NumberingPlan

open Fallible
open Xml (Element)
open Text (OneLine unmarked oneLine_append oneLine_decimal oneLine_intercalate oneLine_unmarked)

namespace Outcome

section Lines

variable {output : String} {texts printed : List String}

/-- The output is these lines and no others: a line feed ends each of them, and none has another. -/
structure Lined (output : String) (texts : List String) : Prop where
  printed : output = String.join (texts.map line)
  whole : ∀ text ∈ texts, OneLine text

def feeds (text : String) : Nat := text.toList.count '\n'

theorem feeds_eq_zero {text : String} : feeds text = 0 ↔ OneLine text := List.count_eq_zero

theorem feeds_unmarked (text : String) : feeds (unmarked text) = feeds text := by
  rw [feeds, unmarked, String.toList_ofList, Text.count_feed_dropMarks, feeds]

theorem feeds_join (texts : List String) :
    feeds (String.join (texts.map line)) = texts.length + (texts.map feeds).sum := by
  induction texts with
  | nil => rfl
  | cons text rest ih =>
    simp only [feeds, line, String.toList_join, List.map_cons, List.flatMap_cons,
      String.toList_append, List.count_append, List.length_cons, List.sum_cons] at ih ⊢
    rw [ih, show "\n".toList.count '\n' = 1 from by decide]
    omega

theorem lines_eq (texts : List String) :
    lines texts = String.join ((texts.map unmarked).map line) := by
  simp only [lines, List.map_map]
  rfl

theorem Lined.feeds_eq (lined : Lined output texts) : feeds output = texts.length := by
  have none : (texts.map feeds).sum = 0 := by
    rw [List.sum_eq_zero_iff]
    simpa [feeds_eq_zero] using lined.whole
  rw [lined.printed, feeds_join, none, Nat.add_zero]

theorem lined_lines (whole : ∀ text ∈ texts, OneLine text) :
    Lined (lines texts) (texts.map unmarked) :=
  ⟨lines_eq texts, by simpa using whole⟩

/-- Texts that come out in as many lines as there are texts have no line feeds. -/
theorem oneLine_of_lined (lined : Lined (lines texts) printed)
    (many : printed.length = texts.length) : ∀ text ∈ texts, OneLine text := by
  -- The lines end in as many line feeds as there are texts, and none is left for the texts.
  have counted := lined.feeds_eq
  rw [lines_eq, feeds_join, List.length_map, many, List.map_map] at counted
  have none : (texts.map (feeds ∘ unmarked)).sum = 0 := by omega
  rw [List.sum_eq_zero_iff] at none
  intro text among
  rw [← feeds_eq_zero, ← feeds_unmarked]
  exact none _ (List.mem_map_of_mem among)

end Lines

section Texts

/-- A text that begins with another one. -/
def Opens (opening text : String) : Prop := opening.toList <+: text.toList

theorem opens_append (opening rest : String) : Opens opening (opening ++ rest) := by
  rw [Opens, String.toList_append]
  exact List.prefix_append _ _

/-- The lines of a build: one for each record, with its name, and one with their number. -/
inductive BuildLines (collection : Collection) : List String → Prop where
  | intro {records : List String} {last : String}
      (named : List.Forall₂ (fun territory text =>
        Opens ("TERRITORY id=" ++ unmarked (nameOrHyphen territory.id) ++ " ") text)
        collection records)
      (counted : Opens ("BUILD territories=" ++ Decimal.text collection.length ++ " ") last) :
      BuildLines collection (records ++ [last])

/-- The lines of an index: one for each calling code, the codes ascending. -/
inductive CodeLines (collection : Collection) : List String → Prop where
  | intro {codes : List Int} {texts : List String} (ascending : codes.Pairwise (· < ·))
      (every : ∀ code, code ∈ codes ↔ ∃ territory ∈ collection, territory.countryCode = code)
      (named : List.Forall₂ (fun code text =>
        Opens ("CODE cc=" ++ Decimal.text code ++ " ") text) codes texts) :
      CodeLines collection texts

theorem oneLine_nameOrHyphen {name : String} : OneLine (nameOrHyphen name) ↔ OneLine name := by
  unfold nameOrHyphen
  split
  · next empty =>
    obtain rfl := String.isEmpty_iff.1 empty
    decide
  · rfl

theorem oneLine_territoryLine {territory : Territory} :
    OneLine (territoryLine territory) ↔ OneLine territory.id := by
  unfold territoryLine
  simp only [oneLine_append, oneLine_decimal, oneLine_nameOrHyphen]
  simp [OneLine]

theorem oneLine_digest (collection : Collection) (algorithm : DigestAlgorithm) :
    OneLine (collection.digest algorithm) := by
  rw [Collection.digest, Text.oneLine_ofList]
  intro inside
  obtain ⟨byte, -, digit⟩ := List.mem_flatMap.1 inside
  exact Text.feed_not_mem_hex _ _ digit

theorem oneLine_buildLine (collection : Collection) : OneLine (buildLine collection) := by
  unfold buildLine
  simp only [oneLine_append, oneLine_decimal, oneLine_digest]
  simp [OneLine]

theorem oneLine_codeLine {entry : Int × List String} :
    OneLine (codeLine entry) ↔ ∀ region ∈ entry.2, OneLine region := by
  unfold codeLine
  simp only [oneLine_append, oneLine_decimal, and_true]
  rw [oneLine_intercalate (by decide)]
  simp [OneLine]

theorem oneLine_diagnosticText {event : Diagnostic} (plain : OneLine event.code) :
    OneLine (diagnosticText event) ↔
      OneLine (event.territory.getD "") ∧ OneLine event.message := by
  have severity : OneLine event.severity.text := by cases event.severity <;> decide
  have stage : OneLine event.stage.text := by cases event.stage <;> decide
  unfold diagnosticText
  simp only [oneLine_append, oneLine_nameOrHyphen, plain, severity, stage]
  simp [OneLine]

theorem opens_territoryLine (territory : Territory) :
    Opens ("TERRITORY id=" ++ unmarked (nameOrHyphen territory.id) ++ " ")
      (unmarked (territoryLine territory)) := by
  have space : " country_code=" = " " ++ "country_code=" := by decide
  have split : territoryLine territory = "TERRITORY id=" ++ (nameOrHyphen territory.id ++ " "
      ++ ("country_code=" ++ Decimal.text territory.countryCode
        ++ " formats=" ++ Decimal.text territory.formats.length
        ++ " intl_formats=" ++ Decimal.text territory.internationalFormats.length)) := by
    unfold territoryLine
    simp only [space, String.append_assoc]
  rw [split, Text.unmarked_append (by decide), Text.unmarked_append_space, ← String.append_assoc,
    ← String.append_assoc]
  exact opens_append _ _

/-- No mark begins in a numeral. -/
theorem opens_number {word : String} (clean : '\x1b' ∉ word.toList) (n : Int) (rest : String) :
    Opens (word ++ Decimal.text n ++ " ") (unmarked (word ++ Decimal.text n ++ " " ++ rest)) := by
  have numeral : '\x1b' ∉ Decimal.ofInt n := Decimal.not_mem_ofInt (by decide) (by decide) n
  have opening : '\x1b' ∉ (word ++ Decimal.text n ++ " ").toList := by
    simp [Decimal.text, clean, numeral]
  rw [Text.unmarked_append opening]
  exact opens_append _ _

theorem opens_buildLine (collection : Collection) :
    Opens ("BUILD territories=" ++ Decimal.text collection.length ++ " ")
      (unmarked (buildLine collection)) := by
  have space : " sha256=" = " " ++ "sha256=" := by decide
  have split : buildLine collection = "BUILD territories=" ++ Decimal.text collection.length ++ " "
      ++ ("sha256=" ++ collection.digest .sha256) := by
    unfold buildLine
    simp only [space, String.append_assoc]
  rw [split]
  exact opens_number (by decide) _ _

theorem opens_codeLine (entry : Int × List String) :
    Opens ("CODE cc=" ++ Decimal.text entry.1 ++ " ") (unmarked (codeLine entry)) := by
  have space : " regions=" = " " ++ "regions=" := by decide
  have split : codeLine entry = "CODE cc=" ++ Decimal.text entry.1 ++ " "
      ++ ("regions=" ++ ",".intercalate entry.2) := by
    unfold codeLine
    simp only [space, String.append_assoc]
  rw [split]
  exact opens_number (by decide) _ _

theorem opens_diagnosticText (event : Diagnostic) :
    Opens "DIAG " (unmarked (diagnosticText event)) := by
  have word : "DIAG severity=" = "DIAG " ++ "severity=" := by decide
  unfold diagnosticText
  rw [word]
  simp only [String.append_assoc]
  rw [Text.unmarked_append (by decide)]
  exact opens_append _ _

end Texts

end Outcome

/-- The one event of a fault. -/
theorem BuildFault.Means.unique {fault : BuildFault} {a b : Diagnostic} (first : fault.Means a)
    (second : fault.Means b) : a = b := by
  cases first with
  | settings diagnosed =>
    cases second with
    | settings other => exact Except.ok.inj (diagnosed.symm.trans other)
  | document diagnosed =>
    cases second with
    | document other => exact Except.ok.inj (diagnosed.symm.trans other)

theorem BuildFault.Means.oneLine_code {fault : BuildFault} {event : Diagnostic}
    (means : fault.Means event) : OneLine event.code := by
  cases means with
  | @settings rejection _ diagnosed =>
    rw [(Diagnostic.ofCode_tells diagnosed).1]
    cases rejection.code <;> decide
  | @document rejection _ diagnosed =>
    rw [(Diagnostic.ofCode_tells diagnosed).1]
    cases rejection.code <;> decide

namespace Job

section Results

variable [SettingsReader] [DocumentReader] [PatternReader] {job : Job} {place : Place}

/-- The collection that a job makes of its document. -/
def Builds (job : Job) (place : Place) (collection : Collection) : Prop :=
  ∃ filed document, job.filed place = .ok filed ∧ job.opened place = .ok document ∧
    document.Makes (job.profile filed) collection

/-- The event of the first fault. -/
def Refuses (job : Job) (place : Place) (event : Diagnostic) : Prop :=
  ∃ fault, (job.faults place).head? = some fault ∧ fault.Means event

theorem run_of_builds {collection : Collection} (built : job.Builds place collection) :
    (job.run place).exitCode = 0 ∧ (job.run place).output = job.print collection := by
  obtain ⟨filed, document, known, opened, made⟩ := built
  rw [run_of_makes known opened made]
  exact ⟨rfl, rfl⟩

theorem run_of_refuses {event : Diagnostic} (refused : job.Refuses place event) :
    (job.run place).exitCode = 2 ∧ (job.run place).output = job.told event := by
  obtain ⟨fault, leads, means⟩ := refused
  generalize ran : job.run place = outcome
  have tells := ran ▸ tells_first leads
  cases tells with
  | event other notes =>
    rw [means.unique other]
    exact ⟨rfl, rfl⟩
  | limit bound notes => cases means

end Results

theorem told_lined {job : Job} (inText : job.format = .text) {event : Diagnostic}
    (plain : OneLine event.code) :
    (∃ text, Outcome.Lined (job.told event) [text] ∧ Outcome.Opens "DIAG " text) ↔
      OneLine (event.territory.getD "") ∧ OneLine event.message := by
  have told : job.told event = Outcome.lines [Outcome.diagnosticText event] := by
    simp [Job.told, Outcome.toldText, inText, Outcome.lines, String.join]
  rw [← Outcome.oneLine_diagnosticText plain, told]
  constructor
  · rintro ⟨text, lined, -⟩
    exact Outcome.oneLine_of_lined lined rfl _ List.mem_cons_self
  · intro whole
    exact ⟨_, Outcome.lined_lines (by simpa using whole), Outcome.opens_diagnosticText event⟩

end Job

namespace Command

section Tables

variable {command : Command} {job : Job} {collection : Collection}

/-- The texts that a command prints of a collection. -/
def texts : Command → Collection → List String
  | .build _, collection => collection.map Outcome.territoryLine ++ [Outcome.buildLine collection]
  | .countryCodes _ _, collection =>
    (RegionIndex.ofCollection collection).sorted.map Outcome.codeLine
  | .answered _, _ => []

/-- The lines in which a command prints a collection. -/
def Lists : Command → Collection → List String → Prop
  | .build _ => Outcome.BuildLines
  | .countryCodes _ _ => Outcome.CodeLines
  | .answered _ => fun _ _ => False

theorem print_eq (asks : command.job? = some job) (inText : job.format = .text)
    (collection : Collection) :
    job.print collection = Outcome.lines (command.texts collection) := by
  cases command with
  | answered text => cases asks
  | build request =>
    cases asks
    simp only at inText ⊢
    rw [inText]
    rfl
  | countryCodes document config =>
    cases asks
    rfl

/-- Names of territories are all that may break a line. -/
theorem oneLine_texts (asks : command.job? = some job) :
    (∀ text ∈ command.texts collection, OneLine text) ↔
      ∀ territory ∈ collection, OneLine territory.id := by
  cases command with
  | answered text => cases asks
  | build request =>
    simp [texts, or_imp, forall_and, Outcome.oneLine_territoryLine, Outcome.oneLine_buildLine]
  | countryCodes document config =>
    have among (entry : Int × List String) :
        entry ∈ (RegionIndex.ofCollection collection).sorted ↔
          entry ∈ RegionIndex.ofCollection collection :=
      (List.mergeSort_perm _ _).mem_iff
    rw [← RegionIndex.forall_regions collection (p := OneLine) (by decide)]
    simp only [texts, List.forall_mem_map, among, Outcome.oneLine_codeLine]

theorem lists_texts (asks : command.job? = some job) (collection : Collection) :
    command.Lists collection ((command.texts collection).map unmarked) := by
  cases command with
  | answered text => cases asks
  | build request =>
    simp only [texts, List.map_append, List.map_map, List.map_singleton]
    refine .intro ?_ (Outcome.opens_buildLine collection)
    rw [List.forall₂_map_right_iff, List.forall₂_same]
    exact fun territory _ => Outcome.opens_territoryLine territory
  | countryCodes document config =>
    refine .intro (RegionIndex.sorted_ascending collection) (fun code => ?_) ?_
    · rw [(RegionIndex.sorted_perm collection).mem_iff, RegionIndex.mem_codes_iff]
    · simp only [texts, List.map_map]
      rw [List.forall₂_map_left_iff, List.forall₂_map_right_iff, List.forall₂_same]
      exact fun entry _ => Outcome.opens_codeLine entry

theorem length_of_lists {printed : List String} (asks : command.job? = some job)
    (lists : command.Lists collection printed) :
    printed.length = (command.texts collection).length := by
  cases command with
  | answered text => cases asks
  | build request =>
    obtain ⟨named, -⟩ := lists
    simp [texts, named.length_eq]
  | countryCodes document config =>
    obtain ⟨ascending, every, named⟩ := lists
    rename_i codes
    -- Whatever codes the lines name, they ascend and are those of the index.
    have same : codes.Perm (RegionIndex.codes collection) := by
      refine (List.perm_ext_iff_of_nodup (ascending.imp fun less => less.ne)
        (RegionIndex.codes_nodup collection)).2 fun code => ?_
      rw [every, RegionIndex.mem_codes_iff]
    rw [← named.length_eq, same.length_eq, ← (RegionIndex.sorted_perm collection).length_eq]
    simp [texts]

/-- The collection is printed in its lines where its territories' names are of one line each. -/
theorem print_lined (asks : command.job? = some job) (inText : job.format = .text) :
    (∃ printed, Outcome.Lined (job.print collection) printed ∧ command.Lists collection printed) ↔
      ∀ territory ∈ collection, OneLine territory.id := by
  rw [← oneLine_texts asks, print_eq asks inText]
  constructor
  · rintro ⟨printed, lined, lists⟩
    exact Outcome.oneLine_of_lined lined (length_of_lists asks lists)
  · exact fun whole => ⟨_, Outcome.lined_lines whole, lists_texts asks collection⟩

end Tables

section Documents

/-- A record has the name that its element has. -/
theorem oneLine_ids [PatternReader] {document : Document}
    (lined : ∀ element ∈ document.territories, element.OneLined)
    {profile : Profile} {collection : Collection} (made : document.Makes profile collection) :
    ∀ territory ∈ collection, OneLine territory.id := by
  have built := (made 1 (Nat.le_refl 1)).1
  rw [build_result document profile (by decide)] at built
  obtain ⟨filter, -, run⟩ := bind_ok.1 built
  intro territory among
  obtain ⟨element, inside, _, filtered, rfl⟩ :=
    (exists_mem_of_mapM run (p := (· = territory))).1 ⟨territory, among, rfl⟩
  obtain ⟨record, compiled, rfl⟩ := compileFiltered_ok.1 filtered
  rw [Filter.apply_id, (compileTerritory_named compiled).1]
  exact (lined element inside).value ((Element.Contains.refl element).hasValue _)

/-- A rejection is told with its message and its territory. -/
theorem means_ofDocument {fault : Fault} {event : Diagnostic}
    (means : (BuildFault.ofDocument fault).Means event) :
    ∃ rejection, fault = .rejected rejection ∧ event.message = rejection.message ∧
      event.territory = rejection.territory := by
  cases fault with
  | limit bound => cases means
  | rejected rejection =>
    cases means with
    | document diagnosed =>
      obtain ⟨-, message, territory, -⟩ := Diagnostic.ofCode_tells diagnosed
      exact ⟨rejection, rfl, message, territory⟩

theorem oneLine_refusal [SettingsReader] [DocumentReader] [PatternReader] {job : Job}
    {place : Place} {filed : Settings} {document : Document} (keeps : PatternReader.KeepsLines)
    (known : job.filed place = .ok filed) (opened : job.opened place = .ok document)
    (lined : ∀ element ∈ document.territories, element.OneLined) {event : Diagnostic}
    (refused : job.Refuses place event) :
    OneLine (event.territory.getD "") ∧ OneLine event.message := by
  obtain ⟨fault, leads, means⟩ := refused
  have among := List.mem_of_mem_head? leads
  simp only [Job.faults, Job.settingsFaults, Job.documentFaults, Job.profileFaults,
    Job.territoryFaults, known, opened, List.nil_append, List.mem_append, List.mem_map] at among
  rcases among with ⟨conflict, found, rfl⟩ | ⟨raised, found, rfl⟩
  · obtain ⟨rejection, rfl, message, territory⟩ := means_ofDocument means
    unfold Profile.faults at found
    split at found
    · cases List.mem_singleton.1 found
      rw [message, territory]
      decide
    · cases found
  · obtain ⟨rejection, rfl, message, territory⟩ := means_ofDocument means
    obtain ⟨element, inside, failed⟩ := mem_faults.1 found
    have plain := lined element inside
    have region := plain.value ((Element.Contains.refl element).hasValue Vocabulary.id)
    obtain ⟨words, label⟩ := compileTerritory_told keeps region plain failed
    rw [message, territory]
    refine ⟨?_, words⟩
    cases named : rejection.territory with
    | none => decide
    | some name => exact label name named

end Documents

section Oriented

variable [SettingsReader] [DocumentReader] [PatternReader] {command : Command} {job : Job}
  {place : Place}

/-- What a command prints are the lines of its collection, or one line about the first fault. -/
structure LineOriented (command : Command) (job : Job) (place : Place) (outcome : Outcome) :
    Prop where
  listed : ∀ collection, job.Builds place collection →
    outcome.exitCode = 0 ∧
      ∃ texts, Outcome.Lined outcome.output texts ∧ command.Lists collection texts
  told : ∀ event, job.Refuses place event →
    outcome.exitCode = 2 ∧
      ∃ text, Outcome.Lined outcome.output [text] ∧ Outcome.Opens "DIAG " text

/-- What a job puts into lines is of one line: the names of the territories that are printed, the
message and the territory of the fault that is told. -/
structure Unbroken (job : Job) (place : Place) : Prop where
  names : ∀ collection, job.Builds place collection → ∀ territory ∈ collection, OneLine territory.id
  refusal : ∀ event, job.Refuses place event →
    OneLine (event.territory.getD "") ∧ OneLine event.message

theorem lineOriented_iff (asks : command.job? = some job) (inText : job.format = .text) :
    command.LineOriented job place (job.run place) ↔ Unbroken job place := by
  constructor
  · rintro ⟨listed, told⟩
    refine ⟨fun collection built => ?_, fun event refused => ?_⟩
    · obtain ⟨-, lines⟩ := listed collection built
      rw [(Job.run_of_builds built).2] at lines
      exact (print_lined asks inText).1 lines
    · obtain ⟨-, line⟩ := told event refused
      rw [(Job.run_of_refuses refused).2] at line
      obtain ⟨fault, leads, means⟩ := refused
      exact (Job.told_lined inText means.oneLine_code).1 line
  · rintro ⟨names, refusal⟩
    refine ⟨fun collection built => ?_, fun event refused => ?_⟩
    · obtain ⟨code, output⟩ := Job.run_of_builds built
      exact ⟨code, output ▸ (print_lined asks inText).2 (names collection built)⟩
    · obtain ⟨code, output⟩ := Job.run_of_refuses refused
      have plain := refusal event refused
      obtain ⟨fault, leads, means⟩ := refused
      exact ⟨code, output ▸ (Job.told_lined inText means.oneLine_code).2 plain⟩

theorem unbroken_of_oneLined (keeps : PatternReader.KeepsLines) {filed : Settings}
    {document : Document} (known : job.filed place = .ok filed)
    (opened : job.opened place = .ok document)
    (lined : ∀ element ∈ document.territories, element.OneLined) : Unbroken job place := by
  refine ⟨?_, fun event => oneLine_refusal keeps known opened lined⟩
  rintro collection ⟨_, other, -, same, made⟩
  cases opened.symm.trans same
  exact oneLine_ids lined made

end Oriented

/-- Text comes line by line exactly where nothing that goes into it is broken. So it does for every
document without line feeds in the attributes of its territories, if the reader of patterns brings
in none. -/
theorem runWords_lines [CommandReader] [SettingsReader] [DocumentReader] [PatternReader]
    (place : Place) {words : List String} {command : Command} {job : Job}
    (read : CommandReader.read words = .ok command) (asks : command.job? = some job)
    (inText : job.format = .text) :
    (command.LineOriented job place (runWords place words) ↔ Unbroken job place) ∧
    (PatternReader.KeepsLines → ∀ filed document,
      job.filed place = .ok filed → job.opened place = .ok document →
      (∀ element ∈ document.territories, element.OneLined) →
      command.LineOriented job place (runWords place words)) := by
  have exactly : command.LineOriented job place (job.run place) ↔ Unbroken job place :=
    lineOriented_iff asks inText
  rw [runWords_job read asks]
  exact ⟨exactly, fun keeps filed document known opened lined =>
    exactly.2 (unbroken_of_oneLined keeps known opened lined)⟩

open scoped Standard

theorem patterns_keepLines : PatternReader.KeepsLines := by
  intro text words clean refused
  obtain ⟨fault, failed, told⟩ := mapError_error.1 refused
  have plain := Pattern.check_fails clean fault failed
  cases fault with
  | malformed complaint position =>
    cases told
    exact Pattern.Complaint.Plain.located plain position text.toList
  | _ => cases told

def plainWords : List String := ["build", "d.xml"]

def plainBuild : Command := .build { document := "d.xml" }

def plainBuildJob : Job := { document := "d.xml", print := Outcome.buildText .text }

/-- Two territories, one of them without a name. -/
def twoCoded : String :=
  "<m><territory id=\"A\" countryCode=\"1\"/><territory countryCode=\"7\"/></m>"

theorem runWords_lines_twoCoded :
    CommandReader.read plainWords = .ok plainBuild ∧ plainBuild.job? = some plainBuildJob ∧
      plainBuildJob.format = .text ∧
      (∃ collection, plainBuildJob.Builds (holding twoCoded) collection) ∧
      plainBuild.LineOriented plainBuildJob (holding twoCoded)
        (runWords (holding twoCoded) plainWords) := by
  have read : CommandReader.read plainWords = .ok plainBuild := by decide +kernel
  have faultless : plainBuildJob.faults (holding twoCoded) = [] := by decide +kernel
  obtain ⟨filed, other, collection, built⟩ := Job.makes_of_faultless faultless
  refine ⟨read, rfl, rfl, ⟨collection, filed, other, built⟩, ?_⟩
  have lined : (Document.ofFile (holding twoCoded).read "d.xml").map (fun document =>
      decide (∀ element ∈ document.territories, element.OneLined)) = .ok true := by
    decide +kernel
  obtain ⟨document, opened, plain⟩ := map_ok.1 lined
  obtain ⟨-, lines⟩ := runWords_lines (holding twoCoded) read rfl rfl
  exact lines patterns_keepLines _ document rfl opened (of_decide_eq_true plain)

def indexWords : List String := ["country-codes", "d.xml"]

def plainIndex : Command := .countryCodes "d.xml" none

def plainIndexJob : Job := { document := "d.xml", print := Outcome.countryCodesText }

/-- A territory whose name is of two lines. -/
def brokenName : String := "<m><territory id=\"A&#10;B\" countryCode=\"1\"/></m>"

/-- There is one calling code, and it comes in two lines. -/
theorem runWords_brokenName :
    CommandReader.read indexWords = .ok plainIndex ∧ plainIndex.job? = some plainIndexJob ∧
      plainIndexJob.format = .text ∧
      runWords (holding brokenName) indexWords =
        { exitCode := 0, output := "CODE cc=1 regions=A\nB\n" } ∧
      ¬ plainIndex.LineOriented plainIndexJob (holding brokenName)
        (runWords (holding brokenName) indexWords) := by
  have read : CommandReader.read indexWords = .ok plainIndex := by decide +kernel
  have printed : runWords (holding brokenName) indexWords =
      { exitCode := 0, output := "CODE cc=1 regions=A\nB\n" } := by
    decide +kernel
  have asks : plainIndex.job? = some plainIndexJob := rfl
  refine ⟨read, asks, rfl, printed, fun oriented => ?_⟩
  have faultless : plainIndexJob.faults (holding brokenName) = [] := by decide +kernel
  obtain ⟨filed, document, collection, known, opened, made⟩ := Job.makes_of_faultless faultless
  have builds : plainIndexJob.Builds (holding brokenName) collection :=
    ⟨filed, document, known, opened, made⟩
  rw [runWords_job read asks, lineOriented_iff asks rfl] at oriented
  have whole := oriented.names collection builds
  have named : (plainIndexJob.opened (holding brokenName) >>= fun document =>
      (NumberingPlan.build document {} 1).result).map (List.map Territory.id) = .ok ["A\nB"] := by
    decide +kernel
  cases known
  have compiled : (NumberingPlan.build document {} 1).result = .ok collection :=
    (made 1 (Nat.le_refl 1)).1
  rw [opened, ok_bind, compiled] at named
  have ids : collection.map Territory.id = ["A\nB"] := Except.ok.inj named
  have single : ∀ name ∈ collection.map Territory.id, OneLine name := by simpa using whole
  rw [ids] at single
  exact absurd (single _ List.mem_cons_self) (by decide)

/-- A pattern that is shown in its message breaks the line of the message. -/
example :
    (runWords
      (holding "<m><territory id=\"A\" countryCode=\"1\" leadingDigits=\"[b-&#10;]\"/></m>")
      ["build", "d.xml"]).output =
      "DIAG severity=error stage=parse code=E_BUILD_PATTERN_INVALID territory=A " ++
        "message=invalid regular expression: bad character range b-\n at position 1" ++
        " (line 1, column 2)\n" := by
  decide +kernel

end Command

end NumberingPlan
