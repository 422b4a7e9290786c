import NumberingPlan.Territory

/-! What a build reports while it runs. -/

namespace NumberingPlan

inductive LogRecord where
  | rejected (label message : String)
  | compiled (label : String) (formats internationalFormats types : Nat)
  | finished (territories : Nat) (variant : Variant) (workers : Nat)
  deriving DecidableEq, Repr

namespace LogRecord

/-- The name of a record's level. -/
def level : LogRecord → String
  | rejected .. => "ERROR"
  | compiled .. => "DEBUG"
  | finished .. => "INFO"

def flagText (flag : Bool) : String := if flag then "True" else "False"

def message : LogRecord → String
  | rejected label message => "territory " ++ label ++ " rejected: " ++ message
  | compiled label formats internationalFormats types =>
    "compiled territory " ++ label ++ ": " ++ Decimal.text formats ++ " number formats, "
      ++ Decimal.text internationalFormats ++ " intl formats, " ++ Decimal.text types
      ++ " number types"
  | finished territories variant workers =>
    "compiled " ++ Decimal.text territories ++ " territories (short_number="
      ++ flagText variant.isShortNumber ++ ", alternate_formats="
      ++ flagText variant.isAlternateFormats ++ ", workers=" ++ Decimal.text workers ++ ")"

/-- A record as a note beside the output; only rejections are told unasked. -/
def note? (verbose : Bool) (record : LogRecord) : Option String :=
  let note := record.level ++ " " ++ record.message
  match record with
  | rejected .. => some note
  | _ => if verbose then some note else none

end LogRecord

end NumberingPlan
