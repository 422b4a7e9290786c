/-! What a reader answers that the compiler stands on and that is no part of it. The compiler looks
at two things in a reader that fails: whether it says what is wrong with its text, and its words. -/

namespace NumberingPlan

/-- What stops a reader that has found nothing wrong with its text: the kind of the fault and what
is said of it. -/
structure Stop where
  kind : String
  words : String
  deriving DecidableEq, Repr

inductive ReaderFault where
  | malformed (words : String)
  | stopped (stop : Stop)
  deriving DecidableEq, Repr

end NumberingPlan
