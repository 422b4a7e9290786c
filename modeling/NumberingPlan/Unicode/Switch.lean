/-! A set of code points written as the ascending list of points where membership changes: the
set begins at the first point, ends before the second, begins again at the third, and so on. -/

namespace NumberingPlan.Unicode

/-- Membership is the parity of the number of points passed. -/
def switched : List Nat → Nat → Bool
  | [], _ => false
  | point :: points, n => if point ≤ n then !switched points n else false

end NumberingPlan.Unicode
