/-! The commands of the program. How a line of words is read as one is left to a reader. -/

namespace NumberingPlan

inductive OutputFormat where
  | text
  | json
  deriving DecidableEq, Repr

abbrev WorkerCount := { count : Int // 1 ≤ count }

structure BuildRequest where
  document : String
  lite : Bool := false
  special : Bool := false
  verbose : Bool := false
  config : Option String := none
  workers : Option WorkerCount := none
  format : OutputFormat := .text
  deriving DecidableEq, Repr

/-- What a line asks for; a line that the reader answers by itself asks for nothing more. -/
inductive Command where
  | build (request : BuildRequest)
  | countryCodes (document : String) (config : Option String)
  | answered (text : String)
  deriving DecidableEq, Repr

/-- A reader of the words of a line: their command, or why they are none. -/
class CommandReader where
  read : List String → Except String Command

end NumberingPlan
