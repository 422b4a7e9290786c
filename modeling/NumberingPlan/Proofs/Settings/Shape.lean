import NumberingPlan.Proofs.Settings.Stable

/-! Which files give settings, and what becomes of them. A file counts by the shape of its content.
Settings that are asked for later take the place of those of the file, the last ones counting. -/

namespace NumberingPlan.Settings

open Fallible
open Text (Utf8.encode)

section Overrides

variable {settings next final : Settings} {asked : Override} {asks : List Override}

theorem override_ok :
    settings.override asked = .ok next ↔ next.lite = asked.lite.getD settings.lite ∧
      next.special = asked.special.getD settings.special ∧
      (next.workers : Int) = asked.workers.getD settings.workers ∧ next.path = settings.path :=
  make_ok_iff

theorem override_succeeds :
    (∃ next, settings.override asked = .ok next) ↔ ∀ count ∈ asked.workers, 1 ≤ count := by
  constructor
  · rintro ⟨next, made⟩ count given
    have workers := (override_ok.1 made).2.2.1
    rw [Option.mem_def.1 given, Option.getD_some] at workers
    have positive := next.positive
    omega
  · intro enough
    have positive := settings.positive
    have many : 1 ≤ asked.workers.getD (settings.workers : Int) := by
      cases given : asked.workers with
      | none => exact Int.ofNat_le.2 positive
      | some count => exact enough count given
    exact ⟨_, dif_pos many⟩

/-- Settings after several were asked for, each field with the last value it was given. -/
structure Overridden (settings : Settings) (asks : List Override) (final : Settings) : Prop where
  lite : final.lite = (asks.filterMap (·.lite)).getLast?.getD settings.lite
  special : final.special = (asks.filterMap (·.special)).getLast?.getD settings.special
  workers : (final.workers : Int) =
    (asks.filterMap (·.workers)).getLast?.getD (settings.workers : Int)
  path : final.path = settings.path

theorem getLast?_filterMap_cons {α β : Type} (given : α → Option β) (first : α) (rest : List α)
    (usual : β) :
    ((first :: rest).filterMap given).getLast?.getD usual =
      (rest.filterMap given).getLast?.getD ((given first).getD usual) := by
  cases found : given first with
  | none => rw [List.filterMap_cons_none found, Option.getD_none]
  | some value => rw [List.filterMap_cons_some found, List.getLast?_cons]; rfl

theorem overridden_cons (made : settings.override asked = .ok next) :
    Overridden settings (asked :: asks) final ↔ Overridden next asks final := by
  obtain ⟨lite, special, workers, path⟩ := override_ok.1 made
  have lites := getLast?_filterMap_cons Override.lite asked asks settings.lite
  have specials := getLast?_filterMap_cons Override.special asked asks settings.special
  have counts := getLast?_filterMap_cons Override.workers asked asks (settings.workers : Int)
  rw [← lite] at lites
  rw [← special] at specials
  rw [← workers] at counts
  constructor
  · rintro ⟨own, ownSpecial, ownWorkers, ownPath⟩
    exact ⟨own.trans lites, ownSpecial.trans specials, ownWorkers.trans counts,
      ownPath.trans path.symm⟩
  · rintro ⟨own, ownSpecial, ownWorkers, ownPath⟩
    exact ⟨own.trans lites.symm, ownSpecial.trans specials.symm, ownWorkers.trans counts.symm,
      ownPath.trans path⟩

/-- Asking succeeds exactly when nobody asks for less than one worker. -/
theorem foldlM_override_ok :
    asks.foldlM override settings = .ok final ↔
      (∀ asked ∈ asks, ∀ count ∈ asked.workers, 1 ≤ count) ∧ Overridden settings asks final := by
  induction asks generalizing settings with
  | nil =>
    constructor
    · rintro ⟨⟩
      exact ⟨by simp, rfl, rfl, rfl, rfl⟩
    · rintro ⟨-, lite, special, workers, path⟩
      have kept : settings.override {} = .ok settings := override_ok.2 ⟨rfl, rfl, rfl, rfl⟩
      exact kept.symm.trans (override_ok.2 ⟨lite, special, workers, path⟩)
  | cons asked rest ih =>
    rw [List.foldlM_cons, bind_ok, List.forall_mem_cons, ← override_succeeds]
    constructor
    · rintro ⟨next, made, later⟩
      obtain ⟨enough, overridden⟩ := ih.1 later
      exact ⟨⟨⟨next, made⟩, enough⟩, (overridden_cons made).2 overridden⟩
    · rintro ⟨⟨⟨next, made⟩, enough⟩, overridden⟩
      exact ⟨next, made, ih.2 ⟨enough, (overridden_cons made).1 overridden⟩⟩

end Overrides

/-- A file that has not been loaded yet and can be read as a text with some content gives settings
exactly when the content has their shape, and then those it describes, with the path of the file.
Other contents are refused as invalid, and but for the three keys of the section nothing in a
content has a say. Asking for other settings later succeeds as long as at least one worker is asked
for, and each field is the last value given for it, or that of the file; the path stays, and so does
one worker at least. -/
theorem load_shaped [SettingsReader] {read : FileReader} {working path : Path} {cache : Cache}
    {name : String}
    {content : Option Yaml.Document} (resolved : Session.resolve? working name = some path)
    (new : cache.lookup path = none) (holds : Holds read path content) :
    (∀ settings, (load read working cache (some name)).1 = .ok settings ↔
      Describes content settings ∧ settings.path = some path.text) ∧
    ((¬ ∃ settings, Describes content settings) → ∃ message,
      (load read working cache (some name)).1 = .error (.rejected { code := .invalid, message })) ∧
    (∀ otherRead other entries others, Holds otherRead path other → SectionOf content entries →
      SectionOf other others →
      (∀ key ∈ ["lite_build", "special_build", "max_workers"], entries key = others key) →
      (load otherRead working cache (some name)).1 = (load read working cache (some name)).1) ∧
    ∀ settings, (load read working cache (some name)).1 = .ok settings → ∀ asks final,
      (asks.foldlM override settings = .ok final ↔
        (∀ asked ∈ asks, ∀ count ∈ asked.workers, 1 ≤ count) ∧ Overridden settings asks final) ∧
      1 ≤ final.workers := by
  rw [Session.load_eq_ofFile resolved new, ofFile_holds holds]
  refine ⟨fun settings => ofContent_ok, fun shapeless => ?_, ?_, ?_⟩
  · obtain ⟨message, -, refused⟩ := ofContent_refused path.text shapeless
    exact ⟨message, refused⟩
  · intro otherRead other entries others holdsOther own ownOther same
    rw [Session.load_eq_ofFile resolved new, ofFile_holds holdsOther]
    exact (ofContent_congr own ownOther same path.text).symm
  · exact fun settings _ asks final => ⟨foldlM_override_ok, final.positive⟩

open scoped Standard

/-- A flag, a count and an entry that is no setting. -/
def flaggedText : List Char :=
  "build: \x7blite_build: true, max_workers: 3, other: no\x7d".toList

theorem load_shaped_flagged :
    ∃ content settings final,
      Holds (fun _ => .ok (Utf8.encode flaggedText)) ⟨"", ["c.yaml"]⟩ content ∧
      Describes content settings ∧ settings.lite = true ∧ settings.workers = 3 ∧
      settings.path = some "c.yaml" ∧
      [{ workers := some 2 }, { lite := some false }].foldlM override settings = .ok final ∧
      final.lite = false ∧ final.workers = 2 := by
  have reads : (SettingsReader.load (unifyLines flaggedText)).isOk = true := by decide +kernel
  have gives : (load (fun _ => .ok (Utf8.encode flaggedText)) {} [] (some "c.yaml")).1.toOption =
      some { lite := true, workers := 3, path := some "c.yaml" } := by decide +kernel
  have resolved : Session.resolve? {} "c.yaml" = some ⟨"", ["c.yaml"]⟩ := by decide +kernel
  have new : ([] : Cache).lookup ⟨"", ["c.yaml"]⟩ = none := rfl
  obtain ⟨content, found⟩ := isOk_iff.1 reads
  have holds : Holds (fun _ => .ok (Utf8.encode flaggedText)) ⟨"", ["c.yaml"]⟩ content :=
    ⟨flaggedText, rfl, found⟩
  obtain ⟨accepted, -, -, asked⟩ := load_shaped resolved new holds
  cases loaded : (load (fun _ => .ok (Utf8.encode flaggedText)) {} [] (some "c.yaml")).1 with
  | error fault =>
    rw [loaded] at gives
    cases gives
  | ok settings =>
    rw [loaded] at gives
    obtain rfl : settings = _ := Option.some.inj gives
    have final := (asked _ loaded [{ workers := some 2 }, { lite := some false }]
      { workers := 2, path := some "c.yaml" }).1
    exact ⟨content, _, _, holds, ((accepted _).1 loaded).1, rfl, rfl, rfl,
      final.2 ⟨by simp, rfl, rfl, rfl, rfl⟩, rfl, rfl⟩

end NumberingPlan.Settings
