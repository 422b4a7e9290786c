import NumberingPlan.Territory

/-! Build profiles. A profile removes fields from finished records; it never changes which
documents compile. -/

namespace NumberingPlan

/-- What is removed from a record: samples of typed descriptions, the kinds not kept, and the
optional fields of the territory. No list of kept kinds keeps them all. -/
structure Filter where
  stripSamples : Bool := false
  kept : Option (List NumberType) := none
  clearOptional : Bool := false
  deriving DecidableEq, Repr

namespace Filter

def isEmpty (filter : Filter) : Bool :=
  !filter.stripSamples && filter.kept.isNone && !filter.clearOptional

def keeps (filter : Filter) (kind : NumberType) : Bool :=
  match filter.kept with
  | none => true
  | some kinds => kinds.contains kind

def applyDesc (filter : Filter) (desc : Descriptor) : Descriptor :=
  if filter.stripSamples then { desc with sample := none } else desc

def applyTyped (filter : Filter) (typed : NumberType → Option Descriptor) (kind : NumberType) :
    Option Descriptor :=
  if filter.keeps kind then (typed kind).map filter.applyDesc else none

def apply (filter : Filter) (territory : Territory) : Territory :=
  let territory := { territory with typed := filter.applyTyped territory.typed }
  if filter.clearOptional then
    { territory with
      preferredInternationalPrefix := none
      nationalPrefix := none
      preferredExtnPrefix := none
      nationalPrefixTransformRule := none
      sameMobileAndFixedLine := false
      mainCountryForCode := false
      leadingZeroPossible := false }
  else territory

theorem apply_empty (territory : Territory) : apply {} territory = territory := by
  have same : applyTyped {} territory.typed = territory.typed := by
    funext kind
    simp only [applyTyped, keeps, if_true]
    cases territory.typed kind <;> rfl
  simp [apply, same]

@[simp] theorem apply_id (filter : Filter) (territory : Territory) :
    (filter.apply territory).id = territory.id := by
  unfold apply; split <;> rfl

@[simp] theorem apply_countryCode (filter : Filter) (territory : Territory) :
    (filter.apply territory).countryCode = territory.countryCode := by
  unfold apply; split <;> rfl

@[simp] theorem apply_mainCountryForCode (filter : Filter) (territory : Territory) :
    (filter.apply territory).mainCountryForCode =
      (!filter.clearOptional && territory.mainCountryForCode) := by
  unfold apply; cases filter.clearOptional <;> rfl

end Filter

structure Profile where
  lite : Bool := false
  special : Bool := false
  deriving DecidableEq, Repr

/-- The filter of a profile: a lite build has no samples, a special build keeps mobile numbers
alone, and a build is not both. -/
def Profile.filter (profile : Profile) : Except Fault Filter :=
  match profile.special, profile.lite with
  | true, true => .error (.rejected
      { code := .flagsConflict, input := "lite_build=true,special_build=true",
        message := "lite_build and special_build may not both be set" })
  | true, false => .ok { kept := some [.mobile], clearOptional := true }
  | false, true => .ok { stripSamples := true }
  | false, false => .ok {}

end NumberingPlan
