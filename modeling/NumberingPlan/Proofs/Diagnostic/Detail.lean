import NumberingPlan.Proofs.Diagnostic.Fields
import NumberingPlan.Proofs.Diagnostic.Normal
import NumberingPlan.Proofs.Diagnostic.Told
import NumberingPlan.Proofs.Json.Unambiguous

/-! What the event of a rejection tells. The first tag stays, whatever follows, and nothing else of
a rejection changes when it is tagged. Its event is the one that its fields give, and the text of
the event tells every part of the rejection. -/

namespace NumberingPlan

open Fallible

section Tags

/-- A rejection that passes through territories, each of which would tag it. -/
def Rejection.tagged (rejection : Rejection) (tags : List String) : Rejection :=
  tags.foldl withTerritory rejection

theorem Rejection.tagged_eq (rejection : Rejection) (tags : List String) :
    rejection.tagged tags =
      { rejection with territory := rejection.territory.or tags.head? } := by
  induction tags generalizing rejection with
  | nil => simp [tagged]
  | cons tag rest ih =>
    change (rejection.withTerritory tag).tagged rest = _
    rw [ih, withTerritory]
    cases known : rejection.territory <;> simp [known]

end Tags

section Texts

theorem RejectionCode.text_injective : Function.Injective text := by
  have known (code : RejectionCode) : ofText? code.text = some code := by
    cases code <;> decide +kernel
  exact fun a b same => Option.some.inj (by rw [← known, same, known])

theorem Severity.text_injective : Function.Injective text := fun a b same =>
  Option.some.inj (by rw [← ofText?_text, same, ofText?_text])

theorem BuildStage.text_injective : Function.Injective text := fun a b same =>
  Option.some.inj (by rw [← ofText?_text, same, ofText?_text])

namespace Diagnostic

/-- What each member of an event's text is. A field without a value has none. -/
theorem json_part (event : Diagnostic) :
    event.json.part? (.member "code") = some (.string event.code) ∧
      event.json.part? (.member "severity") = some (.string event.severity.text) ∧
      event.json.part? (.member "message") = some (.string event.message) ∧
      event.json.part? (.member "suggested_action") = some (.string event.action) ∧
      event.json.part? (.member "stage") = some (.string event.stage.text) ∧
      event.json.part? (.member "element_id") = event.element.map .string ∧
      event.json.part? (.member "territory_id") = event.territory.map .string ∧
      event.json.part? (.member "witness") = event.witness := by
  obtain ⟨code, severity, message, action, stage, element, territory, witness⟩ := event
  cases element <;> cases territory <;> cases witness <;>
    exact ⟨rfl, rfl, rfl, rfl, rfl, rfl, rfl, rfl⟩

/-- The members of an event's text tell the event. -/
theorem json_injective : Function.Injective json := by
  intro a b same
  obtain ⟨code, severity, message, action, stage, element, territory, witness⟩ := a.json_part
  rw [same] at code severity message action stage element territory witness
  obtain ⟨codeB, severityB, messageB, actionB, stageB, elementB, territoryB, witnessB⟩ :=
    b.json_part
  have text {first second : String} {read : Option Json} (one : read = some (.string first))
      (other : read = some (.string second)) : first = second :=
    Json.string.inj (Option.some.inj (one.symm.trans other))
  have optional {first second : Option String} {read : Option Json}
      (one : read = first.map .string) (other : read = second.map .string) : first = second :=
    Option.map_injective Json.string_injective (one.symm.trans other)
  have severities : a.severity = b.severity := Severity.text_injective (text severity severityB)
  have stages : a.stage = b.stage := BuildStage.text_injective (text stage stageB)
  cases a
  cases b
  obtain rfl := text code codeB
  obtain rfl := text message messageB
  obtain rfl := text action actionB
  obtain rfl := optional element elementB
  obtain rfl := optional territory territoryB
  obtain rfl := witness.symm.trans witnessB
  obtain rfl := severities
  obtain rfl := stages
  rfl

theorem json_exact {event : Diagnostic} (exact : ∀ witness ∈ event.witness, witness.Exact) :
    event.json.Exact := by
  obtain ⟨code, severity, message, action, stage, element, territory, witness⟩ := event
  refine .object ?_
  cases element <;> cases territory <;> cases witness <;> simp_all [Json.Exact.string]

end Diagnostic

end Texts

section Detail

variable {rejection : Rejection}

namespace Rejection

theorem evidence_exact (rejection : Rejection) : rejection.evidence.Exact := by
  refine .object fun member listed => ?_
  rcases List.mem_cons.1 listed with rfl | listed
  · exact .string _
  · cases given : rejection.witness with
    | none => simp [given] at listed
    | some values =>
      rw [given] at listed
      obtain rfl := List.mem_singleton.1 listed
      exact Json.strings_exact values

/-- The evidence tells the text at fault and the values, and whether there are values at all. -/
theorem evidence_inj {a b : Rejection} (same : a.evidence = b.evidence) :
    a.input = b.input ∧ a.witness = b.witness := by
  unfold evidence at same
  cases givenA : a.witness <;> cases givenB : b.witness <;>
    simp_all [Json.strings_injective.eq_iff]

/-- What the event of a rejection is made of. -/
def rawEvidence (rejection : Rejection) : Evidence :=
  .map ((.text "input_text", .string rejection.input) ::
    match rejection.witness with
    | none => []
    | some values => [(.text "values", .list (values.map .string))])

def fields (rejection : Rejection) : Diagnostic.Fields :=
  [("code", .string rejection.code.text), ("message", .string rejection.message),
    ("element_id", .string (if rejection.territory.isNone then "document" else "territory")),
    ("territory_id", rejection.territory.elim .null .string),
    ("witness", rejection.rawEvidence)]

/-- A map, a list in it and a text in that take five calls. -/
theorem rawEvidence_normal (rejection : Rejection) {room : Nat} (enough : 5 ≤ room) :
    rejection.rawEvidence.normal room = .ok rejection.evidence := by
  have text (value : String) {room : Nat} (enough : 2 ≤ room) :
      (Evidence.string value).normal room = .ok (.string value) := by
    rw [Evidence.normal, Evidence.enter_ok.2 enough]
    rfl
  have list (values : List String) :
      (Evidence.list (values.map .string)).normal (room - 1) = .ok (Json.strings values) := by
    refine Evidence.normal_list_ok.2 ⟨by omega, values.map .string, ?_, rfl⟩
    rw [mapM_ok_iff_map, List.map_map, List.map_map]
    exact List.map_congr_left fun value _ => text value (by omega)
  have entered (entries : List (EvidenceKey × Evidence)) :
      Evidence.enter room (.map entries) = .ok () :=
    Evidence.enter_ok.2 (show 2 ≤ room by omega)
  have order : ¬ "values" < "input_text" := by decide
  rw [rawEvidence, evidence, Evidence.normal, entered, ok_bind]
  cases rejection.witness with
  | none => simp [Evidence.normalEntries, Evidence.ordered, Evidence.place, Evidence.settle,
      text rejection.input (show 2 ≤ room - 1 by omega)]
  | some values => simp [Evidence.normalEntries, Evidence.ordered, Evidence.place, Evidence.settle,
      order, list values, text rejection.input (show 2 ≤ room - 1 by omega)]

theorem text_full (rejection : Rejection) : rejection.code.text.isEmpty = false ∧
    (Catalog.rejectionEntry rejection.code).action.isEmpty = false := by
  cases rejection.code <;> decide +kernel

theorem optional_territory (rejection : Rejection) (fields : Diagnostic.Fields)
    (given : fields.lookup "territory_id" = some (rejection.territory.elim .null .string)) :
    fields.optional "territory_id" Diagnostic.Fields.readText = .ok rejection.territory := by
  rw [Diagnostic.Fields.optional, given]
  cases rejection.territory <;> rfl

/-- The event of a rejection is what its fields give when they are completed from the catalog. -/
theorem ofFieldsCataloged_fields (rejection : Rejection) {room : Nat} (enough : 5 ≤ room) :
    Diagnostic.ofFieldsCataloged room rejection.fields = rejection.diagnostic := by
  obtain ⟨named, acted⟩ := rejection.text_full
  have code : rejection.fields.lookup "code" = some (.string rejection.code.text) := rfl
  have message : rejection.fields.lookup "message" = some (.string rejection.message) := rfl
  have severity : rejection.fields.lookup "severity" = none := rfl
  have stage : rejection.fields.lookup "stage" = none := rfl
  have action : rejection.fields.lookup "suggested_action" = none := rfl
  cases said : rejection.message.isEmpty with
  | true =>
    simp only [Diagnostic.ofFieldsCataloged, diagnostic, Diagnostic.ofCode, code, message,
      Option.getD_some, Evidence.isVoid, named, said, Bool.false_eq_true, if_false, if_true]
  | false =>
    simp only [Diagnostic.ofFieldsCataloged, diagnostic, Diagnostic.ofCode, code, message,
      Option.getD_some, Option.getD_none, Evidence.isVoid, named, said, Bool.false_eq_true,
      if_false, if_true, Diagnostic.codeText, Diagnostic.Fields.fallback, severity, stage, action,
      Catalog.find?_rejection, Diagnostic.isNull, acted, Option.map_some, ok_bind, Bool.or_self]
    refine Diagnostic.ofFields_eq (Diagnostic.readFullText_string named)
      (Diagnostic.readSeverity_text _) (Diagnostic.readFullText_string said)
      (Diagnostic.readFullText_string acted) (Diagnostic.readStage_text _) rfl
      (rejection.optional_territory _ rfl) ?_ (List.Subset.refl _)
    change (Diagnostic.Fields.readWitness room rejection.rawEvidence).map some = _
    rw [Diagnostic.Fields.readWitness, rejection.rawEvidence_normal enough]
    rfl

/-- A rejection that is told has words. -/
theorem words_of_told {event : Diagnostic} (told : rejection.diagnostic = .ok event) :
    rejection.message ≠ "" := by
  intro silent
  rw [diagnostic, Diagnostic.ofCode, rejection.text_full.1, silent] at told
  cases told

/-- The text of an event tells the rejection that it is the event of. -/
theorem eq_of_told {a b : Rejection} {first second : Diagnostic} {shown others : Json}
    (toldA : a.diagnostic = .ok first) (toldB : b.diagnostic = .ok second)
    (shownA : first.dump = .ok shown) (shownB : second.dump = .ok others)
    (same : shown.text = others.text) : a = b := by
  obtain rfl := Except.ok.inj ((dump_eq toldA).symm.trans shownA)
  obtain rfl := Except.ok.inj ((dump_eq toldB).symm.trans shownB)
  rw [diagnostic_eq (words_of_told toldA)] at toldA
  rw [diagnostic_eq (words_of_told toldB)] at toldB
  cases toldA
  cases toldB
  have exact (rejection : Rejection) : ∀ witness ∈ some rejection.evidence, witness.Exact := by
    simpa using rejection.evidence_exact
  have events := Diagnostic.json_injective (((Diagnostic.json_exact (exact a)).text_inj
    (Diagnostic.json_exact (exact b))).1 same)
  simp only [Diagnostic.mk.injEq, Option.some.injEq] at events
  obtain ⟨codes, -, messages, -, -, -, territories, evidence⟩ := events
  have codes := RejectionCode.text_injective codes
  obtain ⟨inputs, witnesses⟩ := evidence_inj evidence
  cases a
  cases b
  simp_all

end Rejection

end Detail

/-- A rejection that passes through territories keeps its first tag and all else as it was raised.
It is told with the severity, the stage and the action of the catalog, as its fields are when they
are completed from it, and is written; no other rejection is written in the same text. -/
theorem Rejection.told_apart (code : RejectionCode) {message : String} (words : message ≠ "")
    (input : String) (witness : Option (List String)) (tags : List String) :
    let told := tagged { code, message, input, witness } tags
    told = { code, message, input, witness, territory := tags.head? } ∧
      ∃ event entry shown, told.diagnostic = .ok event ∧
        (∀ room, 5 ≤ room → Diagnostic.ofFieldsCataloged room told.fields = .ok event) ∧
        Catalog.canonical.find? code.text = some entry ∧
        (event.severity, event.stage, event.action) = (entry.severity, entry.stage, entry.action) ∧
        event.dump = .ok shown ∧
        ∀ other otherEvent otherShown, Rejection.diagnostic other = .ok otherEvent →
          otherEvent.dump = .ok otherShown → otherShown.text = shown.text → other = told := by
  intro told
  have parts : told = { code, message, input, witness, territory := tags.head? } :=
    tagged_eq _ tags
  have tells : told.diagnostic = .ok _ := diagnostic_eq (parts ▸ words)
  refine ⟨parts, _, _, _, tells, ?_, Catalog.find?_rejection code, ?_, dump_eq tells, ?_⟩
  · intro room enough
    rw [ofFieldsCataloged_fields _ enough, tells]
  · rw [parts]
  · intro other otherEvent otherShown toldToo shownToo same
    exact eq_of_told toldToo tells shownToo (dump_eq tells) same

/-- Two tags, the first of them empty, and a witness without values. -/
theorem Rejection.told_apart_unnamed :
    "length not covered" ≠ "" ∧
      ∃ told event shown,
        told = tagged ⟨.lengthNotCovered, "length not covered", "9", none, some []⟩ ["", "CH"] ∧
        told.territory = some "" ∧ told.diagnostic = .ok event ∧ event.stage = .resolve ∧
        event.dump = .ok shown ∧
        ∀ other otherEvent otherShown, Rejection.diagnostic other = .ok otherEvent →
          otherEvent.dump = .ok otherShown → otherShown.text = shown.text → other = told := by
  have words : "length not covered" ≠ "" := by decide
  obtain ⟨parts, event, entry, shown, tells, -, listed, same, written, apart⟩ :=
    told_apart .lengthNotCovered words "9" (some []) ["", "CH"]
  refine ⟨words, _, event, shown, rfl, ?_, tells, ?_, written, apart⟩
  · rw [parts]
    rfl
  · rw [Catalog.find?_rejection] at listed
    cases listed
    exact (Prod.mk.inj (Prod.mk.inj same).2).1

end NumberingPlan
