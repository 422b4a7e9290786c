import NumberingPlan.Proofs.Collection.Sequence
import NumberingPlan.Proofs.Territory.Attribution
import NumberingPlan.Proofs.Territory.ShortNumbers

/-! What a build by one worker reports. There is one record for each territory that is good, in
document order, and one at the end: a summary, or the rejection of the first territory that is not
good. Nothing is reported of a profile that contradicts itself. -/

namespace NumberingPlan

open Fallible
open Xml (Element)

/-- The kinds of numbers that records of a document describe. -/
def Variant.kinds (variant : Variant) : List NumberType :=
  if variant.isAlternateFormats then [] else NumberType.resolved variant.isShortNumber

/-- A good territory, its record before a profile works on it and what is reported of it. -/
inductive Reported [PatternReader] (variant : Variant) (element : Element) :
    Territory × LogRecord → Prop where
  | compiled {territory : Territory} {label : String}
      (good : compileElement variant element = .ok territory)
      (labels : Labels (element.value Vocabulary.id) (element.value Vocabulary.countryCode) label)
      (kinds : (territory.numberTypes.map (·.1)).Perm variant.kinds) :
      Reported variant element
        (territory, .compiled label territory.formats.length territory.internationalFormats.length
          territory.numberTypes.length)

section Kinds

end Kinds

section Step

variable [PatternReader] {variant : Variant} {element : Element}

theorem Reported.good {one : Territory × LogRecord} (reported : Reported variant element one) :
    compileElement variant element = .ok one.1 := by
  cases reported with
  | compiled good => exact good

theorem Reported.log {one : Territory × LogRecord} (reported : Reported variant element one) :
    territoryLog element (.ok one.1) = [one.2] := by
  cases reported with
  | compiled good labels kinds => rw [territoryLog, labels.unique (territoryLabel_labels _ _)]

theorem Reported.level {one : Territory × LogRecord} (reported : Reported variant element one) :
    one.2.level = "DEBUG" := by
  cases reported with
  | compiled => rfl

end Step

section Run

variable [PatternReader] {variant : Variant} {filter : Filter} {before : List Element}
  {made : List (Territory × LogRecord)}

end Run

section Whole

variable [PatternReader] {document : Document} {profile : Profile} {filter : Filter}

end Whole

open scoped Standard

end NumberingPlan
