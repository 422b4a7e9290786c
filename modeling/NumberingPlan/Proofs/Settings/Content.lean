import NumberingPlan.Proofs.Fallible
import NumberingPlan.Settings

/-! Which contents of a file are settings, and what settings they are. A content counts by the shape
of its root, of the section for builds and of three entries in it; whatever else there is has no
say. -/

namespace NumberingPlan.Settings

open Fallible

section Shape

/-- The value that a key has among members, if it is there. -/
def keyed? (document : Yaml.Document) (members : Members) (key : String) : Option Yaml.Value :=
  (Yaml.lastOf members key).map document.value

/-- The members of a root: a mapping has its own, and null has none. -/
inductive RootIs : Yaml.Value → Members → Prop where
  | null : RootIs (.datum .null) []
  | mapping (members : Members) : RootIs (.mapping members) members

/-- The members of the section for builds, which may be missing or null. -/
inductive SectionIs : Option Yaml.Value → Members → Prop where
  | missing : SectionIs none []
  | null : SectionIs (some (.datum .null)) []
  | mapping (members : Members) : SectionIs (some (.mapping members)) members

/-- A truth value, or false for a key that is not there. -/
inductive FlagIs : Option Yaml.Value → Bool → Prop where
  | missing : FlagIs none false
  | given (flag : Bool) : FlagIs (some (.datum (.bool flag))) flag

theorem FlagIs.of_none {flag : Bool} (absent : FlagIs none flag) : flag = false := by
  cases absent
  rfl

/-- A whole number of one at least, or one for a key that is not there. -/
inductive CountIs : Option Yaml.Value → Nat → Prop where
  | missing : CountIs none 1
  | given {count : Nat} (enough : 1 ≤ count) : CountIs (some (.datum (.int count))) count

theorem CountIs.of_none {count : Nat} (absent : CountIs none count) : count = 1 := by
  cases absent
  rfl

/-- What each key has in the section for builds, in a content where there is room for one. A text
without a document is null. -/
inductive SectionOf : Option Yaml.Document → (String → Option Yaml.Value) → Prop where
  | blank : SectionOf none fun _ => none
  | document {document : Yaml.Document} {members own : Members}
    (root : RootIs (document.value document.root) members)
    (build : SectionIs (keyed? document members "build") own) :
    SectionOf (some document) (keyed? document own)

/-- The content of a file has the shape of settings, and these are they. -/
def Describes (content : Option Yaml.Document) (settings : Settings) : Prop :=
  ∃ entries, SectionOf content entries ∧ FlagIs (entries "lite_build") settings.lite ∧
    FlagIs (entries "special_build") settings.special ∧
    CountIs (entries "max_workers") settings.workers

end Shape

section Invalid

/-- A file that holds something else than settings. -/
def Fault.IsInvalid : Fault → Prop
  | .rejected rejection => rejection.code = .invalid ∧ rejection.message ≠ ""
  | .limit _ => False

theorem invalid_fails {α : Type} {message : String} (words : message ≠ "") :
    FailsOnly Fault.IsInvalid (invalid message : Except Fault α) := .error ⟨rfl, words⟩

theorem rootMembers_fails (document : Yaml.Document) :
    FailsOnly Fault.IsInvalid (rootMembers document) := by
  unfold rootMembers
  split
  · exact .ok _
  · exact .ok _
  · exact invalid_fails (by simp)

theorem sectionMembers_fails (document : Yaml.Document) (members : Members) :
    FailsOnly Fault.IsInvalid (sectionMembers document members) := by
  unfold sectionMembers
  split
  · exact .ok _
  · exact .ok _
  · exact .ok _
  · exact invalid_fails (by simp)

theorem readFlag_fails (document : Yaml.Document) (members : Members) (key : String) :
    FailsOnly Fault.IsInvalid (readFlag document members key) := by
  unfold readFlag
  split
  · exact .ok _
  · exact .ok _
  · exact invalid_fails (by simp)

theorem readCount_fails (document : Yaml.Document) (members : Members) (key : String) :
    FailsOnly Fault.IsInvalid (readCount document members key) := by
  unfold readCount
  split
  · exact .ok _
  · split
    · exact invalid_fails (by simp)
    · exact .ok _
  · exact invalid_fails (by simp)

theorem make_fails (lite special : Bool) (workers : Int) (path : Option String) :
    FailsOnly Fault.IsInvalid (make lite special workers path) := by
  unfold make
  split
  · exact .ok _
  · exact invalid_fails (by simp)

theorem ofDocument_fails (document : Yaml.Document) (path : String) :
    FailsOnly Fault.IsInvalid (ofDocument document path) := by
  refine .bind (rootMembers_fails document) fun root => ?_
  refine .bind (sectionMembers_fails document root) fun members => ?_
  refine .bind (readFlag_fails document members _) fun lite => ?_
  refine .bind (readFlag_fails document members _) fun special => ?_
  refine .bind (readCount_fails document members _) fun workers => ?_
  exact make_fails lite special workers _

end Invalid

section Reading

variable {document : Yaml.Document} {members : Members} {key : String}

theorem make_ok_iff {lite special : Bool} {workers : Int} {path : Option String}
    {settings : Settings} :
    make lite special workers path = .ok settings ↔ settings.lite = lite ∧
      settings.special = special ∧ (settings.workers : Int) = workers ∧ settings.path = path := by
  obtain ⟨own, ownSpecial, ownWorkers, ownPath, positive⟩ := settings
  unfold make
  split
  · next enough =>
    simp only [Except.ok.injEq, mk.injEq]
    constructor
    · rintro ⟨rfl, rfl, rfl, rfl⟩
      exact ⟨rfl, rfl, by omega, rfl⟩
    · rintro ⟨rfl, rfl, rfl, rfl⟩
      exact ⟨rfl, rfl, by omega, rfl⟩
  · next few =>
    constructor
    · intro made
      cases made
    · rintro ⟨-, -, same, -⟩
      simp only at same
      omega

theorem rootMembers_ok :
    rootMembers document = .ok members ↔ RootIs (document.value document.root) members := by
  unfold rootMembers
  generalize document.value document.root = value
  constructor
  · intro read
    split at read <;> cases read
    · exact .null
    · exact .mapping _
  · rintro (_ | _) <;> rfl

theorem sectionMembers_ok {own : Members} :
    sectionMembers document members = .ok own ↔
      SectionIs (keyed? document members sectionKey) own := by
  unfold sectionMembers
  rw [← keyed?]
  generalize keyed? document members sectionKey = value
  constructor
  · intro read
    split at read <;> cases read
    · exact .missing
    · exact .null
    · exact .mapping _
  · rintro (_ | _ | _) <;> rfl

theorem readFlag_ok {flag : Bool} :
    readFlag document members key = .ok flag ↔ FlagIs (keyed? document members key) flag := by
  unfold readFlag
  rw [← keyed?]
  generalize keyed? document members key = value
  constructor
  · intro read
    split at read <;> cases read
    · exact .missing
    · exact .given _
  · rintro (_ | _) <;> rfl

theorem readCount_ok {count : Int} :
    readCount document members key = .ok count ↔
      ∃ workers : Nat, count = workers ∧ CountIs (keyed? document members key) workers := by
  unfold readCount
  rw [← keyed?]
  generalize keyed? document members key = value
  constructor
  · intro read
    split at read
    · cases read
      exact ⟨1, rfl, .missing⟩
    · split at read
      · cases read
      · next enough =>
        cases read
        obtain ⟨workers, rfl⟩ := Int.eq_ofNat_of_zero_le (show 0 ≤ count by omega)
        exact ⟨workers, rfl, .given (by omega)⟩
    · cases read
  · rintro ⟨workers, rfl, _ | enough⟩
    · rfl
    · simp only [ite_eq_right_iff]
      omega

end Reading

section Content

variable {content : Option Yaml.Document}

theorem ofContent_ok {name : String} {settings : Settings} :
    ofContent content name = .ok settings ↔
      Describes content settings ∧ settings.path = some name := by
  cases content with
  | none =>
    rw [ofContent, make_ok_iff]
    constructor
    · rintro ⟨lite, special, workers, own⟩
      have one : settings.workers = 1 := by omega
      exact ⟨⟨_, .blank, lite ▸ .missing, special ▸ .missing, one ▸ .missing⟩, own⟩
    · rintro ⟨⟨entries, ⟨⟩, lite, special, workers⟩, own⟩
      exact ⟨lite.of_none, special.of_none, by rw [workers.of_none]; rfl, own⟩
  | some document =>
    simp only [ofContent, ofDocument, bind_ok, rootMembers_ok, sectionMembers_ok, readFlag_ok,
      readCount_ok, make_ok_iff]
    constructor
    · rintro ⟨members, root, own, build, lite, isLite, special, isSpecial, _,
        ⟨workers, rfl, isCount⟩, rfl, rfl, same, named⟩
      obtain rfl := Int.ofNat_inj.1 same
      exact ⟨⟨_, .document root build, isLite, isSpecial, isCount⟩, named⟩
    · rintro ⟨⟨entries, _ | ⟨root, build⟩, lite, special, workers⟩, named⟩
      exact ⟨_, root, _, build, _, lite, _, special, _, ⟨_, rfl, workers⟩, rfl, rfl, rfl, named⟩

/-- What has not the shape of settings is refused as such, in words. -/
theorem ofContent_refused (name : String)
    (shapeless : ¬ ∃ settings, Describes content settings) :
    ∃ message, message ≠ "" ∧
      ofContent content name = .error (.rejected { code := .invalid, message }) := by
  have fails : FailsOnly Fault.IsInvalid (ofContent content name) := by
    cases content with
    | none => exact make_fails false false 1 _
    | some document => exact ofDocument_fails document name
  cases outcome : ofContent content name with
  | ok settings => exact absurd ⟨settings, (ofContent_ok.1 outcome).1⟩ shapeless
  | error fault =>
    have known := fails fault outcome
    match fault with
    | .rejected ⟨code, message⟩ =>
      obtain rfl : code = .invalid := known.1
      exact ⟨message, known.2, rfl⟩
    | .limit bound => exact known.elim

theorem readFlag_congr {other : Yaml.Document} {members others : Members} {key : String}
    (same : keyed? document members key = keyed? other others key) :
    readFlag document members key = readFlag other others key := by
  rw [readFlag, readFlag, ← keyed?, ← keyed?, same]

theorem readCount_congr {other : Yaml.Document} {members others : Members} {key : String}
    (same : keyed? document members key = keyed? other others key) :
    readCount document members key = readCount other others key := by
  rw [readCount, readCount, ← keyed?, ← keyed?, same]

/-- A content with room for a section is read by what its three keys have in some document. -/
theorem SectionOf.ofContent_eq {entries : String → Option Yaml.Value}
    (own : SectionOf content entries) (name : String) : ∃ document members,
      entries = keyed? document members ∧ ofContent content name = (do
        let lite ← readFlag document members liteKey
        let special ← readFlag document members specialKey
        let workers ← readCount document members workersKey
        make lite special workers (some name)) := by
  cases own with
  | blank => exact ⟨⟨#[], 0⟩, [], rfl, rfl⟩
  | @document document members own root build =>
    refine ⟨document, own, rfl, ?_⟩
    rw [ofContent, ofDocument, rootMembers_ok.2 root, ok_bind, sectionMembers_ok.2 build, ok_bind]

/-- Only the three keys have a say, also in what is told of a content that is refused. -/
theorem ofContent_congr {other : Option Yaml.Document} {entries others : String → Option Yaml.Value}
    (own : SectionOf content entries) (ownOther : SectionOf other others)
    (same : ∀ key ∈ [liteKey, specialKey, workersKey], entries key = others key) (name : String) :
    ofContent content name = ofContent other name := by
  obtain ⟨document, members, rfl, one⟩ := own.ofContent_eq name
  obtain ⟨document, members, rfl, two⟩ := ownOther.ofContent_eq name
  rw [one, two, readFlag_congr (same liteKey (by simp)), readFlag_congr (same specialKey (by simp)),
    readCount_congr (same workersKey (by simp))]

end Content

end NumberingPlan.Settings
