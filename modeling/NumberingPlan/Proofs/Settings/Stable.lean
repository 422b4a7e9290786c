import Mathlib.Data.List.Induction
import NumberingPlan.Proofs.Files
import NumberingPlan.Proofs.Settings.Reading
import NumberingPlan.Session
import NumberingPlan.Standard

/-! Loading settings in a session. The first good reading of a path decides what every later load
of that path gives, however it is spelled and whatever becomes of the file. Until then each load
reads the file as it is, and a load that fails leaves nothing behind. -/

namespace NumberingPlan.Session

/-- The path that a name leads to; a name with a zero character leads nowhere. -/
def resolve? (working : Path) (name : String) : Option Path :=
  if '\x00' ∈ name.toList then none else some (Path.resolve working (Path.ofText name))

theorem not_nul_of_resolved {working path : Path} {name : String}
    (resolved : resolve? working name = some path) :
    '\x00' ∉ name.toList ∧ Path.resolve working (Path.ofText name) = path := by
  unfold resolve? at resolved
  split at resolved
  · cases resolved
  · next named => exact ⟨named, Option.some.inj resolved⟩

section Agree

/-- Two sessions with the same files that know the same of one path. -/
structure Agree (path : Path) (a b : Session) : Prop where
  files : a.files = b.files
  known : a.cache.lookup path = b.cache.lookup path

variable {path : Path} {a b c : Session}

theorem Agree.trans (first : Agree path a b) (second : Agree path b c) :
    Agree path a c :=
  ⟨first.files.trans second.files, first.known.trans second.known⟩

theorem Agree.symm (agree : Agree path a b) : Agree path b a :=
  ⟨agree.files.symm, agree.known.symm⟩

end Agree

section Reader

variable [SettingsReader] {working : Path} {session : Session} {name : String} {path : Path}

section Load

theorem load_none (session : Session) : session.load working none = (.ok {}, session) := rfl

theorem load_unresolved (unresolved : resolve? working name = none) :
    session.load working (some name) = (.error (.limit .nulInPath), session) := by
  have nul : '\x00' ∈ name.toList := by simpa [resolve?] using unresolved
  simp [load, Settings.load, nul]

/-- Once settings are kept for a path, they are what a load of it gives. -/
theorem load_known (resolved : resolve? working name = some path) {settings : Settings}
    (known : session.cache.lookup path = some settings) :
    session.load working (some name) = (.ok settings, session) := by
  obtain ⟨named, rfl⟩ := not_nul_of_resolved resolved
  simp [load, Settings.load, named, known]

/-- A file that is read for the first time is kept if it is good. -/
theorem load_good (resolved : resolve? working name = some path)
    (new : session.cache.lookup path = none) {settings : Settings}
    (read : Settings.ofFile (session.files.reader working) path = .ok settings) :
    session.load working (some name) =
      (.ok settings, { session with cache := (path, settings) :: session.cache }) := by
  obtain ⟨named, rfl⟩ := not_nul_of_resolved resolved
  simp [load, Settings.load, named, new, read]

theorem load_bad (resolved : resolve? working name = some path)
    (new : session.cache.lookup path = none) {fault : Settings.Fault}
    (read : Settings.ofFile (session.files.reader working) path = .error fault) :
    session.load working (some name) = (.error fault, session) := by
  obtain ⟨named, rfl⟩ := not_nul_of_resolved resolved
  simp [load, Settings.load, named, new, read]

/-- Until something is kept for a path, a load of it is a reading of its file. -/
theorem load_eq_ofFile {read : FileReader} {cache : Settings.Cache}
    (resolved : resolve? working name = some path) (new : cache.lookup path = none) :
    (Settings.load read working cache (some name)).1 = Settings.ofFile read path := by
  obtain ⟨named, rfl⟩ := not_nul_of_resolved resolved
  cases outcome : Settings.ofFile read (Path.resolve working (Path.ofText name)) <;>
    simp [Settings.load, named, new, outcome]

theorem load_new (resolved : resolve? working name = some path)
    (new : session.cache.lookup path = none) :
    (session.load working (some name)).1 = Settings.ofFile (session.files.reader working) path :=
  load_eq_ofFile resolved new

theorem load_reads (resolved : resolve? working name = some path)
    (new : session.cache.lookup path = none) :
    Settings.Reads path (session.files.reader working path)
      (session.load working (some name)).1 :=
  load_new resolved new ▸ Settings.ofFile_reads _ path

end Load

section Step

/-- A step keeps what is known, or it is the first good load of a path and keeps that too. -/
theorem step_cache (working : Path) (session : Session) (act : Act) :
    (session.step working act).cache = session.cache ∨
      ∃ name path settings, act = .load (some name) ∧ resolve? working name = some path ∧
        session.cache.lookup path = none ∧
        (session.load working (some name)).1 = .ok settings ∧
        (session.step working act).cache = (path, settings) :: session.cache := by
  cases act with
  | write parts entry => exact .inl rfl
  | delete parts => exact .inl rfl
  | load asked =>
    cases asked with
    | none => exact .inl rfl
    | some name =>
      cases resolved : resolve? working name with
      | none => exact .inl (by rw [step, load_unresolved resolved])
      | some path =>
        cases known : session.cache.lookup path with
        | some settings => exact .inl (by rw [step, load_known resolved known])
        | none =>
          cases read : Settings.ofFile (session.files.reader working) path with
          | error fault => exact .inl (by rw [step, load_bad resolved known read])
          | ok settings =>
            refine .inr ⟨name, path, settings, rfl, resolved, known, ?_⟩
            simp only [step, load_good resolved known read, and_self]

theorem step_known {settings : Settings} (known : session.cache.lookup path = some settings)
    (act : Act) : (session.step working act).cache.lookup path = some settings := by
  rcases session.step_cache working act with same | ⟨name, other, gained, -, -, new, -, grown⟩
  · rw [same, known]
  · have apart : path ≠ other := by
      rintro rfl
      rw [known] at new
      cases new
    rw [grown, List.lookup_cons, beq_false_of_ne apart, known]

theorem load_keeps (resolved : resolve? working name = some path) {settings : Settings}
    (loaded : (session.load working (some name)).1 = .ok settings) :
    (session.load working (some name)).2.cache.lookup path = some settings := by
  cases known : session.cache.lookup path with
  | some kept =>
    rw [load_known resolved known] at loaded ⊢
    cases loaded
    exact known
  | none =>
    rw [load_new resolved known] at loaded
    rw [load_good resolved known loaded, List.lookup_cons_self]

theorem load_failed {fault : Settings.Fault} {asked : Option String}
    (failed : (session.load working asked).1 = .error fault) :
    (session.load working asked).2 = session := by
  cases asked with
  | none => cases failed
  | some name =>
    cases resolved : resolve? working name with
    | none => rw [load_unresolved resolved]
    | some path =>
      cases known : session.cache.lookup path with
      | some settings => rw [load_known resolved known]
      | none =>
        rw [load_new resolved known] at failed
        rw [load_bad resolved known failed]

end Step

section Run

theorem run_append (session : Session) (before after : List Act) :
    session.run working (before ++ after) = (session.run working before).run working after :=
  List.foldl_append

theorem run_concat (session : Session) (acts : List Act) (act : Act) :
    session.run working (acts ++ [act]) = (session.run working acts).step working act :=
  List.foldl_append

theorem run_known {settings : Settings} (known : session.cache.lookup path = some settings)
    (acts : List Act) : (session.run working acts).cache.lookup path = some settings := by
  induction acts generalizing session with
  | nil => exact known
  | cons act rest ih => exact ih (step_known known act)

/-- A load of the path among these acts gave the settings. -/
def LoadedAs (working : Path) (start : Session) (acts : List Act) (path : Path)
    (settings : Settings) : Prop :=
  ∃ earlier name later, acts = earlier ++ .load (some name) :: later ∧
    resolve? working name = some path ∧
    ((start.run working earlier).load working (some name)).1 = .ok settings

theorem LoadedAs.concat {start : Session} {acts : List Act} {settings : Settings}
    (loaded : LoadedAs working start acts path settings) (act : Act) :
    LoadedAs working start (acts ++ [act]) path settings := by
  obtain ⟨earlier, name, later, rfl, resolved, gave⟩ := loaded
  exact ⟨earlier, name, later ++ [act], by simp, resolved, gave⟩

/-- What is known of a path is what a load of it gave. -/
theorem lookup_run_iff {start : Session} (fresh : start.cache = []) {acts : List Act}
    {settings : Settings} :
    (start.run working acts).cache.lookup path = some settings ↔
      LoadedAs working start acts path settings := by
  constructor
  · intro known
    -- The last act is the one that the cache may have grown by.
    induction acts using List.reverseRecOn with
    | nil => simp [run, fresh] at known
    | append_singleton acts act ih =>
      rw [run_concat] at known
      rcases (start.run working acts).step_cache working act with
        same | ⟨name, other, gained, rfl, resolved, -, gave, grown⟩
      · rw [same] at known
        exact (ih known).concat act
      · rw [grown, List.lookup_cons] at known
        split at known
        · next hit =>
          obtain rfl := eq_of_beq hit
          cases known
          exact ⟨acts, name, [], rfl, resolved, gave⟩
        · exact (ih known).concat _
  · rintro ⟨earlier, name, later, rfl, resolved, gave⟩
    rw [run_append]
    exact run_known (load_keeps resolved gave) later

variable {a b : Session}

theorem Agree.load (agree : Agree path a b) (resolved : resolve? working name = some path) :
    (a.load working (some name)).1 = (b.load working (some name)).1 ∧
      Agree path (a.load working (some name)).2 (b.load working (some name)).2 := by
  cases known : a.cache.lookup path with
  | some settings =>
    rw [load_known resolved known, load_known resolved (agree.known ▸ known)]
    exact ⟨rfl, agree⟩
  | none =>
    have knownToo : b.cache.lookup path = none := agree.known ▸ known
    cases read : Settings.ofFile (a.files.reader working) path with
    | error fault =>
      rw [load_bad resolved known read, load_bad resolved knownToo (agree.files ▸ read)]
      exact ⟨rfl, agree⟩
    | ok settings =>
      rw [load_good resolved known read, load_good resolved knownToo (agree.files ▸ read)]
      exact ⟨rfl, agree.files, by simp only [List.lookup_cons_self]⟩

/-- A load of no path or of another one changes nothing that is known of the path. -/
theorem Agree.of_other {asked : Option String}
    (other : ∀ name ∈ asked, resolve? working name ≠ some path) (session : Session) :
    Agree path (session.load working asked).2 session := by
  refine ⟨rfl, ?_⟩
  rcases session.step_cache working (.load asked) with
    same | ⟨name, otherPath, gained, same, resolved, -, -, grown⟩
  · exact congrArg (List.lookup path) same
  · cases same
    have apart : path ≠ otherPath := by
      rintro rfl
      exact other name rfl resolved
    calc
      _ = List.lookup path ((otherPath, gained) :: session.cache) := congrArg _ grown
      _ = List.lookup path session.cache := by rw [List.lookup_cons, beq_false_of_ne apart]

theorem Agree.step (agree : Agree path a b) (act : Act) :
    Agree path (a.step working act) (b.step working act) := by
  cases act with
  | write parts entry => exact ⟨congrArg (·.write parts entry) agree.files, agree.known⟩
  | delete parts => exact ⟨congrArg (·.delete parts) agree.files, agree.known⟩
  | load asked =>
    by_cases other : ∀ name ∈ asked, resolve? working name ≠ some path
    · exact ((of_other other a).trans agree).trans (of_other other b).symm
    · obtain ⟨name, rfl, resolved⟩ :
          ∃ name, asked = some name ∧ resolve? working name = some path := by
        simpa using other
      exact (agree.load resolved).2

theorem Agree.run (agree : Agree path a b) (acts : List Act) :
    Agree path (a.run working acts) (b.run working acts) := by
  induction acts generalizing a b with
  | nil => exact agree
  | cons act rest ih => exact ih (agree.step act)

end Run

/-- How loading settings goes on after any acts of a session. -/
structure Stable (working : Path) (start : Session) : Prop where
  /-- No name stands for the usual settings. -/
  unnamed (acts : List Act) :
    (start.run working acts).load working none = (.ok {}, start.run working acts)
  nowhere {acts : List Act} {name : String} (unresolved : resolve? working name = none) :
    (start.run working acts).load working (some name) =
      (.error (.limit .nulInPath), start.run working acts)
  /-- Any good load of the path, and so the first, gave what every later one gives. -/
  kept {acts : List Act} {name : String} {path : Path} {settings : Settings}
    (resolved : resolve? working name = some path)
    (loaded : LoadedAs working start acts path settings) :
    (start.run working acts).load working (some name) = (.ok settings, start.run working acts)
  /-- A path without a good load so far is read as its file is now. -/
  read {acts : List Act} {name : String} {path : Path}
    (resolved : resolve? working name = some path)
    (unloaded : ∀ settings, ¬ LoadedAs working start acts path settings) :
    Settings.Reads path ((start.run working acts).files.reader working path)
      ((start.run working acts).load working (some name)).1
  written {acts : List Act} {name : String} {path : Path} {parts : List String}
    {bytes : List UInt8} (resolved : resolve? working name = some path)
    (unloaded : ∀ settings, ¬ LoadedAs working start acts path settings)
    (leads : ((start.run working acts).files.write parts (.file bytes)).Leads working path parts) :
    Settings.Reads path (.ok bytes)
      ((start.run working (acts ++ [.write parts (.file bytes)])).load working (some name)).1
  deleted {acts : List Act} {name : String} {path : Path} {parts : List String}
    (resolved : resolve? working name = some path)
    (unloaded : ∀ settings, ¬ LoadedAs working start acts path settings)
    (leads : ((start.run working acts).files.delete parts).Leads working path parts)
    (inside : parts ≠ []) :
    Settings.Reads path (.error .missing)
      ((start.run working (acts ++ [.delete parts])).load working (some name)).1
  failed {acts : List Act} {asked : Option String} {fault : Settings.Fault}
    (fails : ((start.run working acts).load working asked).1 = .error fault) :
    ((start.run working acts).load working asked).2 = start.run working acts
  /-- A load that failed does not stand in the way of a file that is good later. -/
  repaired {acts : List Act} {name : String} {path : Path} {fault : Settings.Fault}
    {parts : List String} {entry : FileEntry} {content : Option Yaml.Document}
    {settings : Settings} (resolved : resolve? working name = some path)
    (fails : ((start.run working acts).load working (some name)).1 = .error fault)
    (good : Settings.Holds (((start.run working acts).files.write parts entry).reader working) path
      content)
    (shape : Settings.Describes content settings) (own : settings.path = some path.text) :
    ((start.run working (acts ++ [.load (some name), .write parts entry])).load working
      (some name)).1 = .ok settings
  /-- Leaving out a load of another path, or of none, makes no difference. -/
  apart {before after : List Act} {asked : Option String} {name : String} {path : Path}
    (resolved : resolve? working name = some path)
    (other : ∀ otherName ∈ asked, resolve? working otherName ≠ some path) :
    ((start.run working (before ++ .load asked :: after)).load working (some name)).1 =
      ((start.run working (before ++ after)).load working (some name)).1

/-- A session that begins with nothing loaded keeps the first good reading of every path, reads the
file as it is until then, and never lets one path have a say about another. -/
theorem load_stable (working : Path) (files : Files) : Stable working { files } := by
  have known_iff {acts : List Act} {path : Path} {settings : Settings} :
      (run working { files } acts).cache.lookup path = some settings ↔
        LoadedAs working { files } acts path settings := lookup_run_iff rfl
  have unknown {acts : List Act} {path : Path}
      (unloaded : ∀ settings, ¬ LoadedAs working { files } acts path settings) :
      (run working { files } acts).cache.lookup path = none := by
    cases known : (run working { files } acts).cache.lookup path with
    | none => rfl
    | some settings => exact absurd (known_iff.1 known) (unloaded settings)
  constructor
  case unnamed => exact fun acts => load_none _
  case nowhere => exact fun unresolved => load_unresolved unresolved
  case kept => exact fun resolved loaded => load_known resolved (known_iff.2 loaded)
  case read => exact fun resolved unloaded => load_reads resolved (unknown unloaded)
  case written =>
    intro acts name path parts bytes resolved unloaded leads
    have new : ((run working { files } acts).step working
        (.write parts (.file bytes))).cache.lookup path = none := unknown unloaded
    rw [run_concat, ← leads.read_written]
    exact load_reads resolved new
  case deleted =>
    intro acts name path parts resolved unloaded leads inside
    have new : ((run working { files } acts).step working
        (.delete parts)).cache.lookup path = none := unknown unloaded
    rw [run_concat, ← leads.read_deleted inside]
    exact load_reads resolved new
  case failed => exact fun fails => load_failed fails
  case repaired =>
    intro acts name path fault parts entry content settings resolved fails good shape own
    have same : run working { files } (acts ++ [.load (some name), .write parts entry]) =
        (run working { files } acts).step working (.write parts entry) := by
      rw [run_append]
      exact congrArg (step working · (.write parts entry)) (load_failed fails)
    have new : ((run working { files } acts).step working
        (.write parts entry)).cache.lookup path = none := by
      change (run working { files } acts).cache.lookup path = none
      cases known : (run working { files } acts).cache.lookup path with
      | none => rfl
      | some kept =>
        rw [load_known resolved known] at fails
        cases fails
    rw [same, load_new resolved new]
    exact (Settings.ofFile_holds good).trans (Settings.ofContent_ok.2 ⟨shape, own⟩)
  case apart =>
    intro before after asked name path resolved other
    rw [run_append, run_append]
    exact ((Agree.of_other other (run working { files } before)).run after |>.load resolved).1

end Reader

open scoped Standard

def flaggedText : List Char := "build: \x7blite_build: true\x7d".toList

def flaggedPath : Path := ⟨"/", ["w", "c.yaml"]⟩

/-- A file that is missing at first and good later, its settings once it is gone again, under
another spelling, and a file that is gone before it was loaded. -/
theorem load_stable_flagged :
    let working : Path := ⟨"/", ["w"]⟩
    let load : Act := .load (some "c.yaml")
    let write : Act := .write ["c.yaml"] (.file (Text.Utf8.encode flaggedText))
    let delete : Act := .delete ["c.yaml"]
    let settings : Settings := { lite := true, path := some "/w/c.yaml" }
    ((run working {} ([] ++ [load, write])).load working (some "c.yaml")).1 = .ok settings ∧
      ((run working {} [load, write, load, delete]).load working (some "/w/./d/../c.yaml")).1 =
        .ok settings ∧
      Settings.Reads flaggedPath (.error .missing)
        ((run working {} ([write] ++ [delete])).load working (some "c.yaml")).1 := by
  intro working load write delete settings
  have stable := load_stable working []
  have resolved : resolve? working "c.yaml" = some flaggedPath := by decide +kernel
  have spelled : resolve? working "/w/./d/../c.yaml" = some flaggedPath := by decide +kernel
  have failed : ((run working {} []).load working (some "c.yaml")).1 = .error (.rejected
      { code := .readFailed,
        message := "unable to read build configuration '/w/c.yaml': " ++
          "[Errno 2] No such file or directory: '/w/c.yaml'" }) := by decide +kernel
  have gives : (SettingsReader.load (Settings.unifyLines flaggedText)).map
      (Settings.ofContent · flaggedPath.text) = .ok (.ok settings) := by decide +kernel
  obtain ⟨content, found, made⟩ := Fallible.map_ok.1 gives
  obtain ⟨shape, own⟩ := Settings.ofContent_ok.1 made
  have good : Settings.Holds (((run working {} []).files.write ["c.yaml"]
      (.file (Text.Utf8.encode flaggedText))).reader working) flaggedPath content :=
    ⟨flaggedText, by decide +kernel, found⟩
  have repaired := stable.repaired resolved failed good shape own
  refine ⟨repaired, ?_, ?_⟩
  · have loaded : LoadedAs working {} [load, write, load, delete] flaggedPath settings :=
      ⟨[load, write], "c.yaml", [delete], rfl, resolved, repaired⟩
    rw [stable.kept spelled loaded]
  · have unloaded (found : Settings) : ¬ LoadedAs working {} [write] flaggedPath found := by
      rintro ⟨earlier, name, later, split, -⟩
      rcases List.cons_eq_append_iff.1 split with ⟨rfl, other⟩ | ⟨rest, rfl, nothing⟩
      · simp [write] at other
      · simp at nothing
    refine stable.deleted resolved unloaded ?_ (by decide)
    refine ⟨⟨rfl, rfl⟩, rfl, by decide, fun up down whole more => ?_⟩
    rcases List.append_eq_singleton_iff.1 whole with ⟨rfl, -⟩ | ⟨-, rfl⟩
    · rfl
    · exact absurd rfl more

end NumberingPlan.Session
