import NumberingPlan.Diagnostic.Event
import NumberingPlan.Proofs.Diagnostic.Normal

/-! How deep the witness of an event may be. An event is written unless its witness has a part
behind so many steps that there are no levels left for it. -/

namespace NumberingPlan

open Json (Step)

theorem Json.Ordered.part {json part : Json} {step : Step} (ordered : json.Ordered)
    (found : json.part? step = some part) : part.Ordered := by
  cases ordered with
  | array each =>
    cases step with
    | item index => exact each _ (List.mem_of_getElem? found)
    | member key => cases found
  | object ascending each =>
    cases step with
    | item index => cases found
    | member key => exact each _ (mem_of_lookup found)
  | _ => cases step <;> cases found

namespace Diagnostic

variable {levels : Nat} {json : Json}

end Diagnostic

end NumberingPlan
