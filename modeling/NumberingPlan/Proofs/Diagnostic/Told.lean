import NumberingPlan.Diagnostic.Event

/-! Every rejection that has words is told, of a document or of settings: its code is in the
catalog, its event says where it comes from, and the event is written as it is. -/

namespace NumberingPlan

/-- An event that is made for a code tells what it was given. -/
theorem Diagnostic.ofCode_tells {code message : String} {element territory : Option String}
    {witness : Option Json} {event : Diagnostic}
    (made : ofCode code message element territory witness = .ok event) :
    event.code = code ∧ event.message = message ∧ event.territory = territory ∧
      event.witness = witness := by
  unfold ofCode at made
  split at made
  · cases made
  split at made
  · cases made
  split at made
  · cases made
  unfold checkContext at made
  split at made
  · cases made
  · cases made
    exact ⟨rfl, rfl, rfl, rfl⟩

theorem Diagnostic.dump_of_shown {event : Diagnostic}
    (shown : ∀ witness ∈ event.witness, shown? greatestLevels witness = some witness) :
    event.dump = .ok event.json := by
  obtain ⟨code, severity, message, action, stage, element, territory, witness⟩ := event
  cases witness with
  | none => rfl
  | some witness => simp only [dump, shown witness rfl]

theorem Catalog.find?_rejection (code : RejectionCode) :
    canonical.find? code.text = some (rejectionEntry code) := by
  cases code <;> decide +kernel

theorem Rejection.diagnostic_eq {rejection : Rejection} (words : rejection.message ≠ "") :
    rejection.diagnostic = .ok
      { code := rejection.code.text
        severity := (Catalog.rejectionEntry rejection.code).severity
        message := rejection.message
        action := (Catalog.rejectionEntry rejection.code).action
        stage := (Catalog.rejectionEntry rejection.code).stage
        element := some (if rejection.territory.isNone then "document" else "territory")
        territory := rejection.territory
        witness := some rejection.evidence } := by
  have named : rejection.code.text.isEmpty = false := by
    cases rejection.code <;> decide +kernel
  have said : rejection.message.isEmpty = false := by simpa using words
  simp [diagnostic, Diagnostic.ofCode, named, said, Catalog.find?_rejection,
    Diagnostic.checkContext]

theorem Rejection.shown_evidence (rejection : Rejection) :
    Diagnostic.shown? Diagnostic.greatestLevels rejection.evidence = some rejection.evidence := by
  have strings (values : List String) :
      Diagnostic.shownItems? 253 (values.map .string) = some (values.map .string) := by
    induction values with
    | nil => rfl
    | cons value rest ih => simp [Diagnostic.shownItems?, Diagnostic.shown?, ih]
  rw [evidence]
  cases rejection.witness with
  | none => rfl
  | some values =>
    simp [Diagnostic.shown?, Diagnostic.greatestLevels, Diagnostic.shownMembers?, Json.strings,
      strings]

theorem Rejection.dump_eq {rejection : Rejection} {event : Diagnostic}
    (told : rejection.diagnostic = .ok event) : event.dump = .ok event.json := by
  obtain ⟨-, -, -, witness⟩ := Diagnostic.ofCode_tells told
  refine Diagnostic.dump_of_shown fun shown listed => ?_
  rw [witness] at listed
  cases listed
  exact rejection.shown_evidence

theorem Catalog.find?_settings (code : SettingsCode) :
    canonical.find? code.text = some (settingsEntry code) := by
  cases code <;> decide +kernel

theorem SettingsRejection.diagnostic_eq {rejection : SettingsRejection}
    (words : rejection.message ≠ "") :
    rejection.diagnostic = .ok
      { code := rejection.code.text
        severity := .error
        message := rejection.message
        action := (Catalog.settingsEntry rejection.code).action
        stage := .config
        element := some SettingsRejection.element } := by
  have named : rejection.code.text.isEmpty = false := by
    cases rejection.code <;> decide +kernel
  have said : rejection.message.isEmpty = false := by simpa using words
  simp [diagnostic, Diagnostic.ofCode, named, said, Catalog.find?_settings,
    Diagnostic.checkContext, Catalog.settingsEntry]

theorem SettingsRejection.dump_eq {rejection : SettingsRejection} {event : Diagnostic}
    (told : rejection.diagnostic = .ok event) : event.dump = .ok event.json := by
  obtain ⟨-, -, -, witness⟩ := Diagnostic.ofCode_tells told
  exact Diagnostic.dump_of_shown (by simp [witness])

end NumberingPlan
