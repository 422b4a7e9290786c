import NumberingPlan.Proofs.Territory.Compression
import NumberingPlan.Proofs.Territory.Faults

/-! Where the fault of a territory comes from. The parts of a record are resolved one after the
other, and the first that fails decides what is told: its rejection, into which only the territory
is written, or the limit at which it stopped. A record that is made has both the kinds of numbers
that it compares. -/

namespace NumberingPlan

open Fallible
open Xml (Element)

/-- The part of a record that fails, with its fault. The parts before it have been resolved. -/
inductive FirstFailure [PatternReader] (id : String) (element : Element) (variant : Variant) :
    Fault → Prop where
  | attributes {fault : Fault} (failed : territoryAttributes id element = .error fault) :
      FirstFailure id element variant fault
  | formats {base : Territory} {fault : Fault}
      (attributes : territoryAttributes id element = .ok base)
      (failed : numberFormats element (formatDefaults element) = .error fault) :
      FirstFailure id element variant fault
  | general {base : Territory} {rules : FormatRules} {fault : Fault}
      (attributes : territoryAttributes id element = .ok base)
      (formats : numberFormats element (formatDefaults element) = .ok rules)
      (failed : generalDesc element variant.isShortNumber = .error fault) :
      FirstFailure id element variant fault
  | typed {base : Territory} {rules : FormatRules} {general : Descriptor}
      {before after : List NumberType} {kind : NumberType} {fault : Fault}
      (attributes : territoryAttributes id element = .ok base)
      (formats : numberFormats element (formatDefaults element) = .ok rules)
      (derived : generalDesc element variant.isShortNumber = .ok general)
      (described : variant.isAlternateFormats = false)
      (order : NumberType.resolved variant.isShortNumber = before ++ kind :: after)
      (earlier : ∀ other ∈ before, ∃ desc, numberDesc element other.tag general = .ok desc)
      (failed : numberDesc element kind.tag general = .error fault) :
      FirstFailure id element variant fault

/-- How a territory is called: by its region, else by its calling code, else as unknown. -/
structure Labels (id code label : String) : Prop where
  byRegion : id ≠ "" → label = id
  byCode : id = "" → code ≠ "" → label = code
  unknown : id = "" → code = "" → label = "<unknown>"

/-- What becomes of the fault of a part when the record is refused. -/
inductive Refusal [PatternReader] (id : String) (element : Element) : Fault → Fault → Prop where
  | rejected {rejection : Rejection} {label : String} (untagged : rejection.territory = none)
      (labels : Labels id (element.value Vocabulary.countryCode) label) :
      Refusal id element (.rejected rejection)
        (.rejected { rejection with territory := some label })
  | limit {bound : Limit} {text : String} (written : element.HasText text)
      (reached : bound.ReachedAt text) : Refusal id element (.limit bound) (.limit bound)

section Parts

variable [PatternReader]

theorem typedDescs_error {element : Element} {general : Descriptor} {variant : Variant}
    {fault : Fault} :
    typedDescs element general variant = .error fault ↔
      variant.isAlternateFormats = false ∧ ∃ before kind after,
        NumberType.resolved variant.isShortNumber = before ++ kind :: after ∧
          (∀ other ∈ before, ∃ desc, numberDesc element other.tag general = .ok desc) ∧
          numberDesc element kind.tag general = .error fault := by
  unfold typedDescs
  cases variant.isAlternateFormats with
  | true => simp
  | false =>
    have keyed (kind : NumberType) : (∃ entry, (do
        .ok (kind, ← numberDesc element kind.tag general) : Except Fault _) = .ok entry) ↔
          ∃ desc, numberDesc element kind.tag general = .ok desc := by
      simp [bind_ok]
    simp only [Bool.false_eq_true, if_false, true_and, mapM_error, keyed, bind_error,
      reduceCtorEq, and_false, exists_false, or_false]

theorem resolveTerritory_error {id : String} {element : Element} {variant : Variant}
    {fault : Fault} :
    resolveTerritory id element variant = .error fault ↔
      FirstFailure id element variant fault := by
  simp only [resolveTerritory, bind_error, typedDescs_error, reduceCtorEq, and_false, exists_false,
    or_false]
  constructor
  · rintro (failed | ⟨base, attributes, failed | ⟨rules, formats, failed |
      ⟨general, derived, described, before, kind, after, order, earlier, failed⟩⟩⟩)
    · exact .attributes failed
    · exact .formats attributes failed
    · exact .general attributes formats failed
    · exact .typed attributes formats derived described order earlier failed
  · rintro (failed | ⟨attributes, failed⟩ | ⟨attributes, formats, failed⟩ |
      ⟨attributes, formats, derived, described, order, earlier, failed⟩)
    · exact .inl failed
    · exact .inr ⟨_, attributes, .inl failed⟩
    · exact .inr ⟨_, attributes, .inr ⟨_, formats, .inl failed⟩⟩
    · exact .inr ⟨_, attributes, .inr ⟨_, formats, .inr
        ⟨_, derived, described, _, _, _, order, earlier, failed⟩⟩⟩

end Parts

section Refused

theorem territoryLabel_labels (id : String) (element : Element) :
    Labels id (element.value Vocabulary.countryCode) (territoryLabel id element) := by
  constructor <;> simp +contextual [territoryLabel]

theorem Labels.unique {id code label other : String} (labels : Labels id code label)
    (others : Labels id code other) : label = other := by
  by_cases region : id = ""
  · by_cases named : code = ""
    · rw [labels.unknown region named, others.unknown region named]
    · rw [labels.byCode region named, others.byCode region named]
  · rw [labels.byRegion region, others.byRegion region]

variable [PatternReader]

/-- The fault that is told is fixed by the one that was raised. -/
theorem refusal_iff {id : String} {element : Element} {raised fault : Fault}
    (known : raised.RaisedIn element) :
    Refusal id element raised fault ↔ raised.inTerritory (territoryLabel id element) = fault := by
  have labels := territoryLabel_labels id element
  constructor
  · rintro (⟨untagged, others⟩ | _)
    · simp [Fault.inTerritory, Rejection.withTerritory, untagged, labels.unique others]
    · rfl
  · rintro rfl
    cases known with
    | rejected words untagged =>
      simp only [Fault.inTerritory, Rejection.withTerritory, untagged]
      exact .rejected untagged labels
    | limit written reached => exact .limit written reached

/-- No text of an element reaches a limit that guards the values of a record. -/
theorem Fault.RaisedIn.not_own {element : Element} {raised : Fault}
    (known : raised.RaisedIn element) (label : String) :
    (∀ broken, raised.inTerritory label ≠ .limit (.lengths broken)) ∧
      raised.inTerritory label ≠ .limit .countryCodeKind := by
  cases known with
  | rejected words => exact ⟨nofun, nofun⟩
  | limit written reached => cases reached <;> exact ⟨nofun, nofun⟩

end Refused

/-- The record of an ordinary territory has the two kinds whose patterns it compares. -/
theorem compileTerritory_compares [PatternReader] {id : String} {element : Element}
    {territory : Territory}
    (compiled : compileTerritory id element ⟨false, false⟩ = .ok territory) :
    ∃ mobile fixedLine, territory.typed .mobile = some mobile ∧
      territory.typed .fixedLine = some fixedLine ∧
      territory.sameMobileAndFixedLine = (mobile.pattern == fixedLine.pattern) := by
  obtain ⟨base, rules, general, types, -, -, -, described, rfl⟩ :=
    resolveTerritory_ok.1 (compileTerritory_ok.1 compiled)
  have twoKinds : .mobile ∈ NumberType.resolved false ∧ .fixedLine ∈ NumberType.resolved false := by
    decide
  obtain ⟨mobile, foundMobile, -⟩ := lookup_of_typedDescs described twoKinds.1
  obtain ⟨fixedLine, foundLine, -⟩ := lookup_of_typedDescs described twoKinds.2
  refine ⟨mobile, fixedLine, foundMobile, foundLine, ?_⟩
  simp [Territory.withParts, foundMobile, foundLine]

/-- A record is refused exactly with the fault of its first part that fails. A rejection stays as it
was raised and names the territory, by its region, else by its calling code, else as unknown; a
limit stays as it is, and it was reached at a text of the territory. What guards the values of a
record never stops it, and the kinds that an ordinary record compares are always there. -/
theorem compileTerritory_attributed [PatternReader] (id : String) (element : Element)
    (variant : Variant) :
    (∀ fault, compileTerritory id element variant = .error fault ↔
      ∃ raised, FirstFailure id element variant raised ∧ Refusal id element raised fault) ∧
    (∀ fault, compileTerritory id element variant = .error fault →
      (∀ broken, fault ≠ .limit (.lengths broken)) ∧ fault ≠ .limit .countryCodeKind) ∧
    (variant = ⟨false, false⟩ → ∀ territory,
      compileTerritory id element variant = .ok territory →
        ∃ mobile fixedLine, territory.typed .mobile = some mobile ∧
          territory.typed .fixedLine = some fixedLine ∧
          territory.sameMobileAndFixedLine = (mobile.pattern == fixedLine.pattern)) := by
  refine ⟨fun fault => ?_, fun fault failed => ?_, ?_⟩
  · rw [compileTerritory, mapError_error]
    refine exists_congr fun raised => ?_
    rw [resolveTerritory_error]
    refine and_congr_right fun first => ?_
    have known := resolveTerritory_fails id element variant raised (resolveTerritory_error.2 first)
    exact (refusal_iff known).symm
  · obtain ⟨raised, resolved, rfl⟩ := mapError_error.1 failed
    exact (resolveTerritory_fails id element variant raised resolved).not_own _
  · rintro rfl territory compiled
    exact compileTerritory_compares compiled

open scoped Standard

/-- A territory without a region in which one kind of numbers is described twice. -/
def twiceMobile : Element :=
  ⟨"territory", [("countryCode", "800")], [.element "mobile" [] [], .element "mobile" [] []]⟩

def twiceMobileFault : Fault :=
  .rejected
    { code := .typeDuplicate, message := "multiple elements with type mobile found",
      input := "mobile", territory := some "800", witness := some ["2"] }

theorem compileTerritory_twiceMobile :
    (compileTerritory "" twiceMobile ⟨false, false⟩ = .error twiceMobileFault ∧
      (∃ raised, FirstFailure "" twiceMobile ⟨false, false⟩ raised ∧
        Refusal "" twiceMobile raised twiceMobileFault) ∧
      (∀ broken, twiceMobileFault ≠ .limit (.lengths broken)) ∧
      twiceMobileFault ≠ .limit .countryCodeKind) ∧
    ∃ territory, compileTerritory "CH" twoLines ⟨false, false⟩ = .ok territory ∧
      ∃ mobile fixedLine, territory.typed .mobile = some mobile ∧
        territory.typed .fixedLine = some fixedLine ∧
        territory.sameMobileAndFixedLine = (mobile.pattern == fixedLine.pattern) := by
  have failed : compileTerritory "" twiceMobile ⟨false, false⟩ = .error twiceMobileFault := by cbv
  have compiles : (compileTerritory "CH" twoLines ⟨false, false⟩).isOk = true := by cbv
  obtain ⟨attributed, foreign, -⟩ := compileTerritory_attributed "" twiceMobile ⟨false, false⟩
  obtain ⟨-, -, compares⟩ := compileTerritory_attributed "CH" twoLines ⟨false, false⟩
  obtain ⟨territory, compiled⟩ := isOk_iff.1 compiles
  exact ⟨⟨failed, (attributed _).1 failed, foreign _ failed⟩,
    territory, compiled, compares rfl territory compiled⟩

end NumberingPlan
