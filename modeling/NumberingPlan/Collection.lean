import NumberingPlan.Document
import NumberingPlan.Log
import NumberingPlan.Profile

/-! Compiling all territories of a document. The records keep document order, and the fault that
is told is that of the first failing territory in that order, however many workers share the
work and in whatever order they finish. -/

namespace NumberingPlan

open Xml (Element)

abbrev Collection := List Territory

namespace Collection

def byRegion? (collection : Collection) (id : String) : Option Territory :=
  collection.find? (·.id == id)

/-- The record at a position; a negative one counts from the end. -/
def at? (collection : Collection) (position : Int) : Option Territory :=
  let position := if position < 0 then position + collection.length else position
  if position < 0 then none else collection[position.toNat]?

end Collection

def Document.variant (document : Document) : Variant :=
  ⟨document.isShortNumber, document.isAlternateFormats⟩

def compileElement [PatternReader] (variant : Variant) (element : Element) :
    Except Fault Territory :=
  compileTerritory (element.value Vocabulary.id) element variant

def compileFiltered [PatternReader] (variant : Variant) (filter : Filter) (element : Element) :
    Except Fault Territory :=
  (compileElement variant element).map filter.apply

/-- What is reported of one territory. Only rejections are reported as failures. -/
def territoryLog (element : Element) (result : Except Fault Territory) : List LogRecord :=
  let label := territoryLabel (element.value Vocabulary.id) element
  match result with
  | .ok territory =>
    [.compiled label territory.formats.length territory.internationalFormats.length
      territory.numberTypes.length]
  | .error (.rejected rejection) => [.rejected label rejection.message]
  | .error (.limit _) => []

structure Build where
  log : List LogRecord
  result : Except Fault Collection

def compileInOrder [PatternReader] (variant : Variant) (filter : Filter) :
    List Element → List LogRecord × Except Fault (List Territory)
  | [] => ([], .ok [])
  | element :: rest =>
    let compiled := compileElement variant element
    let log := territoryLog element compiled
    match compiled with
    | .error fault => (log, .error fault)
    | .ok territory =>
      let (more, others) := compileInOrder variant filter rest
      (log ++ more, others.map (filter.apply territory :: ·))

/-- Builds the collection of a document. A profile that contradicts itself and a number of workers
below one are refused before any territory is looked at. -/
def build [PatternReader] (document : Document) (profile : Profile) (workers : Int) : Build :=
  if workers < 1 then ⟨[], .error (.limit .noWorkers)⟩
  else
    match profile.filter with
    | .error fault => ⟨[], .error fault⟩
    | .ok filter =>
      let (log, result) := compileInOrder document.variant filter document.territories
      match result with
      | .error fault => ⟨log, .error fault⟩
      | .ok territories =>
        ⟨log ++ [.finished territories.length document.variant workers.toNat], .ok territories⟩

/-- The regions of each calling code, codes in the order in which they first occur. -/
abbrev RegionIndex := List (Int × List String)

namespace RegionIndex

/-- Adds a territory: the first of its code brings its region if it has one; of the later ones a
main country goes to the front and any other to the end. -/
def add (territory : Territory) : RegionIndex → RegionIndex
  | [] => [(territory.countryCode, if territory.id.isEmpty then [] else [territory.id])]
  | (code, regions) :: rest =>
    if code = territory.countryCode then
      (code, if territory.mainCountryForCode then territory.id :: regions
        else regions ++ [territory.id]) :: rest
    else (code, regions) :: add territory rest

def ofCollection (collection : Collection) : RegionIndex :=
  collection.foldl (fun index territory => add territory index) []

def sorted (index : RegionIndex) : RegionIndex :=
  index.mergeSort (fun a b => decide (a.1 ≤ b.1))

end RegionIndex

end NumberingPlan
