import NumberingPlan.Proofs.Settings.Content
import NumberingPlan.Proofs.Text.Utf8

/-! What comes of reading a file of settings, by what the file holds. A file that cannot be read,
that is no YAML or that holds something else than settings is refused in words. A file that is no
text, or whose text stops the reader of YAML, is a limit. -/

namespace NumberingPlan.Settings

open Text (Utf8.encode Utf8.decode)

variable [SettingsReader]

/-- The file at a path is a text with this content. -/
def Holds (read : FileReader) (path : Path) (content : Option Yaml.Document) : Prop :=
  ∃ text, read path = .ok (Utf8.encode text) ∧ SettingsReader.load (unifyLines text) = .ok content

/-- What the reading of a file comes to, by what is found at its path. -/
inductive Reads (path : Path) :
    Except ReadFault (List UInt8) → Except Fault Settings → Prop where
  | unreadable (fault : ReadFault) :
      Reads path (.error fault) (.error (.rejected
        { code := .readFailed,
          message := "unable to read build configuration '" ++ path.text ++ "': "
            ++ fault.message path }))
  | undecodable {bytes : List UInt8} {fault : Text.Utf8.Fault}
      (noText : ∀ text, bytes ≠ Utf8.encode text) (refused : Utf8.decode bytes = .error fault) :
      Reads path (.ok bytes) (.error (.limit (.undecodable fault)))
  | malformed {text : List Char} {words : String}
      (found : SettingsReader.load (unifyLines text) = .error (.malformed words)) :
      Reads path (.ok (Utf8.encode text)) (.error (.rejected
        { code := .parseFailed,
          message := "invalid build configuration yaml in '" ++ path.text ++ "': " ++ words }))
  | stopped {text : List Char} {stop : Stop}
      (found : SettingsReader.load (unifyLines text) = .error (.stopped stop)) :
      Reads path (.ok (Utf8.encode text)) (.error (.limit (.settings stop)))
  | invalid {text : List Char} {content : Option Yaml.Document} {message : String}
      (found : SettingsReader.load (unifyLines text) = .ok content)
      (shapeless : ¬ ∃ settings, Describes content settings) (words : message ≠ "") :
      Reads path (.ok (Utf8.encode text)) (.error (.rejected { code := .invalid, message }))
  | loaded {text : List Char} {content : Option Yaml.Document} {settings : Settings}
      (found : SettingsReader.load (unifyLines text) = .ok content)
      (shape : Describes content settings) (own : settings.path = some path.text) :
      Reads path (.ok (Utf8.encode text)) (.ok settings)

section File

variable {read : FileReader} {path : Path} {content : Option Yaml.Document}

theorem ofFile_holds (holds : Holds read path content) :
    ofFile read path = ofContent content path.text := by
  obtain ⟨text, found, loaded⟩ := holds
  rw [ofFile, found]
  simp only [ofBytes, Text.Utf8.decode_ok.2 rfl, loaded]

theorem ofFile_reads (read : FileReader) (path : Path) :
    Reads path (read path) (ofFile read path) := by
  cases found : read path with
  | error fault =>
    rw [ofFile, found]
    exact .unreadable fault
  | ok bytes =>
    cases decoded : Utf8.decode bytes with
    | error fault =>
      simp only [ofFile, found, ofBytes, decoded]
      refine .undecodable (fun text form => ?_) decoded
      rw [Text.Utf8.decode_ok.2 form] at decoded
      cases decoded
    | ok text =>
      cases loaded : SettingsReader.load (unifyLines text) with
      | error fault =>
        simp only [ofFile, found, ofBytes, decoded, loaded]
        rw [Text.Utf8.decode_ok.1 decoded]
        cases fault with
        | malformed words => exact .malformed loaded
        | stopped stop => exact .stopped loaded
      | ok content =>
        rw [Text.Utf8.decode_ok.1 decoded] at found ⊢
        rw [ofFile_holds ⟨text, found, loaded⟩]
        by_cases shape : ∃ settings, Describes content settings
        · obtain ⟨settings, shape⟩ := shape
          have own : Describes content { settings with path := some path.text } := shape
          rw [ofContent_ok.2 ⟨own, rfl⟩]
          exact .loaded loaded own rfl
        · obtain ⟨message, words, refused⟩ := ofContent_refused path.text shape
          rw [refused]
          exact .invalid loaded shape words

theorem Reads.words {file : Except ReadFault (List UInt8)} {outcome : Except Fault Settings}
    (reads : Reads path file outcome) {rejection : SettingsRejection}
    (refused : outcome = .error (.rejected rejection)) : rejection.message ≠ "" := by
  cases reads with
  | unreadable | malformed =>
    cases refused
    simp
  | invalid found shapeless words =>
    cases refused
    exact words
  | undecodable | stopped | loaded => cases refused

/-- What bytes cannot be read as settings and are not refused either: those of no text, and those
of a text that stops the reader of YAML. -/
def Unusable (bytes : List UInt8) : Prop :=
  (∀ text, bytes ≠ Utf8.encode text) ∨ ∃ text stop, bytes = Utf8.encode text ∧
    SettingsReader.load (unifyLines text) = .error (.stopped stop)

theorem Reads.limit_iff {file : Except ReadFault (List UInt8)} {outcome : Except Fault Settings}
    (reads : Reads path file outcome) :
    (∃ bound, outcome = .error (.limit bound)) ↔ ∃ bytes, file = .ok bytes ∧ Unusable bytes := by
  have usable {text : List Char} {loaded : Except ReaderFault (Option Yaml.Document)}
      (found : SettingsReader.load (unifyLines text) = loaded)
      (read : ∀ stop, loaded ≠ .error (.stopped stop)) : ¬ Unusable (Utf8.encode text) := by
    rintro (noText | ⟨other, stop, same, stopped⟩)
    · exact noText text rfl
    · have known := Text.Utf8.decode_ok.2 same
      rw [Text.Utf8.decode_ok.2 rfl] at known
      cases known
      exact read stop (found.symm.trans stopped)
  cases reads with
  | unreadable => simp
  | undecodable noText refused => simp [Unusable, noText]
  | stopped found => simpa using .inr ⟨_, _, rfl, found⟩
  | malformed found => simpa using usable found nofun
  | invalid found => simpa using usable found nofun
  | loaded found => simpa using usable found nofun

end File

end NumberingPlan.Settings
