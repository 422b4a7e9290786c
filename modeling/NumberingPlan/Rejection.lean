import NumberingPlan.Text.Quoted

/-! What a compiler of numbering plans says when it refuses a document. A rejection names one
of twelve codes, a message, the text at fault and, when there are any, the values that show
the fault. It is tagged at most once with the territory it was found in. -/

namespace NumberingPlan

inductive RejectionCode where
  | lengthSpecMalformed
  | patternInvalid
  | typeDuplicate
  | lengthNotCovered
  | generalDescLengths
  | localOnlyUnexpected
  | lengthSetsOverlap
  | formatCount
  | intlFormatDuplicate
  | flagsConflict
  | countryCodeInvalid
  | documentInvalid
  deriving DecidableEq, Repr

namespace RejectionCode

def text : RejectionCode → String
  | lengthSpecMalformed => "E_BUILD_LENGTH_SPEC_MALFORMED"
  | patternInvalid => "E_BUILD_PATTERN_INVALID"
  | typeDuplicate => "E_BUILD_TYPE_DUPLICATE"
  | lengthNotCovered => "E_BUILD_LENGTH_NOT_COVERED"
  | generalDescLengths => "E_BUILD_GENERAL_DESC_LENGTHS"
  | localOnlyUnexpected => "E_BUILD_LOCAL_ONLY_UNEXPECTED"
  | lengthSetsOverlap => "E_BUILD_LENGTH_SETS_OVERLAP"
  | formatCount => "E_BUILD_FORMAT_COUNT"
  | intlFormatDuplicate => "E_BUILD_INTL_FORMAT_DUPLICATE"
  | flagsConflict => "E_BUILD_FLAGS_CONFLICT"
  | countryCodeInvalid => "E_BUILD_COUNTRY_CODE_INVALID"
  | documentInvalid => "E_BUILD_DOCUMENT_INVALID"

def all : List RejectionCode :=
  [lengthSpecMalformed, patternInvalid, typeDuplicate, lengthNotCovered, generalDescLengths,
    localOnlyUnexpected, lengthSetsOverlap, formatCount, intlFormatDuplicate, flagsConflict,
    countryCodeInvalid, documentInvalid]

def ofText? (name : String) : Option RejectionCode :=
  all.find? (fun code => code.text == name)

/-- What is said of a name that is no code. -/
def unknown (name : String) : String := Text.quote name ++ " is not a valid BuildErrorCode"

end RejectionCode

structure Rejection where
  code : RejectionCode
  message : String
  input : String
  territory : Option String := none
  witness : Option (List String) := none
  deriving DecidableEq, Repr

namespace Rejection

/-- The one-line form: code and message, then the territory if one is known. -/
def text (rejection : Rejection) : String :=
  match rejection.territory with
  | none => rejection.code.text ++ ": " ++ rejection.message
  | some id => rejection.code.text ++ ": " ++ rejection.message ++ " (territory '" ++ id ++ "')"

/-- The first tag stays. -/
def withTerritory (rejection : Rejection) (id : String) : Rejection :=
  match rejection.territory with
  | none => { rejection with territory := some id }
  | some _ => rejection

@[simp] theorem withTerritory_code (rejection : Rejection) (id : String) :
    (rejection.withTerritory id).code = rejection.code := by
  unfold withTerritory; split <;> rfl

@[simp] theorem withTerritory_message (rejection : Rejection) (id : String) :
    (rejection.withTerritory id).message = rejection.message := by
  unfold withTerritory; split <;> rfl

@[simp] theorem withTerritory_input (rejection : Rejection) (id : String) :
    (rejection.withTerritory id).input = rejection.input := by
  unfold withTerritory; split <;> rfl

@[simp] theorem withTerritory_witness (rejection : Rejection) (id : String) :
    (rejection.withTerritory id).witness = rejection.witness := by
  unfold withTerritory; split <;> rfl

theorem withTerritory_territory (rejection : Rejection) (id : String) :
    (rejection.withTerritory id).territory = some (rejection.territory.getD id) := by
  unfold withTerritory; split <;> simp_all

end Rejection

end NumberingPlan
