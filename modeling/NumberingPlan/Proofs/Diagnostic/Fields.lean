import NumberingPlan.Diagnostic.Event
import NumberingPlan.Proofs.Fallible

/-! Fields that make an event: each can be read as what the event has there. -/

namespace NumberingPlan

open Fallible

theorem Severity.ofText?_text (severity : Severity) : ofText? severity.text = some severity := by
  cases severity <;> decide +kernel

theorem BuildStage.ofText?_text (stage : BuildStage) : ofText? stage.text = some stage := by
  cases stage <;> decide +kernel

namespace Diagnostic

/-- There is room for a witness that can be read. -/
theorem Fields.stop?_of_ok {room : Nat} {fields : Fields} {witness : Option Json}
    (read : fields.optional "witness" (readWitness room) = .ok witness) :
    fields.stop? room = none := by
  unfold optional at read
  unfold stop?
  cases given : fields.lookup "witness" with
  | none => rfl
  | some value =>
    rw [given] at read
    cases value with
    | null => rfl
    | _ =>
      obtain ⟨json, made, -⟩ := map_ok.1 read
      simp only [mapError_ok.1 made]

/-- Fields that can all be read, and of which none is unknown, make an event. -/
theorem ofFields_eq {room : Nat} {fields : Fields} {event : Diagnostic}
    (code : fields.required "code" Fields.readFullText = .ok event.code)
    (severity : fields.required "severity" Fields.readSeverity = .ok event.severity)
    (message : fields.required "message" Fields.readFullText = .ok event.message)
    (action : fields.required "suggested_action" Fields.readFullText = .ok event.action)
    (stage : fields.required "stage" Fields.readStage = .ok event.stage)
    (element : fields.optional "element_id" Fields.readText = .ok event.element)
    (territory : fields.optional "territory_id" Fields.readText = .ok event.territory)
    (witness : fields.optional "witness" (Fields.readWitness room) = .ok event.witness)
    (known : fields.map (·.1) ⊆ Fields.names) : ofFields room fields = event.checkContext := by
  have none : fields.filter (fun field => !Fields.names.contains field.1) = [] := by
    rw [List.filter_eq_nil_iff]
    intro field listed
    simpa using known (List.mem_map_of_mem listed)
  simp only [ofFields, Fields.stop?_of_ok witness, Fields.findings, Fields.event?, code, severity,
    message, action, stage, element, territory, witness, none, Fields.complaint?, ok_bind,
    List.append_nil, List.map_nil]

theorem readFullText_string {text : String} (full : text.isEmpty = false) :
    Fields.readFullText (.string text) = .ok text := by
  have words : text ≠ "" := by simpa using full
  simp [Fields.readFullText, Fields.readText, words]

theorem readSeverity_text (severity : Severity) :
    Fields.readSeverity (.string severity.text) = .ok severity := by
  simp [Fields.readSeverity, Severity.ofText?_text]

theorem readStage_text (stage : BuildStage) :
    Fields.readStage (.string stage.text) = .ok stage := by
  simp [Fields.readStage, BuildStage.ofText?_text]

end Diagnostic

end NumberingPlan
