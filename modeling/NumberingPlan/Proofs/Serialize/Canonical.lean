import NumberingPlan.Proofs.Json.Unambiguous
import NumberingPlan.Proofs.Length.Pair
import NumberingPlan.Serialize

/-! The canonical text of compiled records. Every field of a record reaches the text, so the
records can be told from it, with nothing taken for something else. -/

namespace NumberingPlan

section Fields

theorem LengthSet.json_exact (set : LengthSet) : set.json.Exact := by
  refine .array fun item listed => ?_
  obtain ⟨length, -, rfl⟩ := List.mem_map.1 listed
  exact .int length

theorem LengthSet.json_injective : Function.Injective json := by
  intro a b same
  have lists : a.toList = b.toList :=
    List.map_injective_iff.2 (fun _ _ => Json.int.inj) (Json.array.inj same)
  exact toList_inj.1 lists

theorem Descriptor.json_exact (desc : Descriptor) : desc.json.Exact := by
  refine .object fun member listed => ?_
  simp only [List.mem_cons, List.not_mem_nil, or_false] at listed
  rcases listed with rfl | rfl | rfl | rfl
  · exact .ofOption .string _
  · exact .ofOption .string _
  · exact LengthSet.json_exact _
  · exact LengthSet.json_exact _

theorem Descriptor.json_injective : Function.Injective json := by
  rintro ⟨patternA, sampleA, lengthsA⟩ ⟨patternB, sampleB, lengthsB⟩ same
  simp only [json, Json.object.injEq, List.cons.injEq, Prod.mk.injEq, true_and, and_true,
    Json.ofOption_string_injective.eq_iff, LengthSet.json_injective.eq_iff] at same
  obtain ⟨rfl, rfl, national, localOnly⟩ := same
  rw [LengthPair.ext national localOnly]

theorem Descriptor.ofOption_json_injective : Function.Injective (Json.ofOption json) :=
  Json.ofOption_injective (fun _ none => by cases none) json_injective

theorem FormatRule.json_exact (rule : FormatRule) : rule.json.Exact := by
  refine .object fun member listed => ?_
  simp only [List.mem_cons, List.not_mem_nil, or_false] at listed
  rcases listed with rfl | rfl | rfl | rfl | rfl | rfl
  · exact .ofOption .string _
  · exact .string _
  · exact Json.strings_exact _
  · exact .ofOption .string _
  · exact .bool _
  · exact .string _

theorem FormatRule.json_injective : Function.Injective json := by
  rintro ⟨patternA, formatA, leadingA, prefixA, optionalA, carrierA⟩
    ⟨patternB, formatB, leadingB, prefixB, optionalB, carrierB⟩ same
  simp only [json, Json.object.injEq, List.cons.injEq, Prod.mk.injEq, true_and, and_true,
    Json.ofOption_string_injective.eq_iff, Json.string.injEq, Json.bool.injEq,
    Json.strings_injective.eq_iff] at same
  obtain ⟨rfl, rfl, rfl, rfl, rfl, rfl⟩ := same
  rfl

end Fields

section Records

theorem Territory.json_exact (territory : Territory) : territory.json.Exact := by
  have formats (rules : List FormatRule) : (Json.array (rules.map FormatRule.json)).Exact := by
    refine .array fun item listed => ?_
    obtain ⟨rule, -, rfl⟩ := List.mem_map.1 listed
    exact rule.json_exact
  have typed (kind : NumberType) : (territory.typedEntry kind).2.Exact :=
    .ofOption Descriptor.json_exact _
  have optional (value : Option String) : (Json.ofOption .string value).Exact :=
    .ofOption .string value
  refine .object ?_
  simp only [List.forall_mem_cons, List.not_mem_nil, false_implies, implies_true, and_true, typed,
    formats, optional, Json.Exact.int, Json.Exact.bool, Json.Exact.string,
    Descriptor.json_exact]

theorem Territory.json_injective : Function.Injective json := by
  intro a b same
  have formats : Function.Injective (List.map FormatRule.json) :=
    List.map_injective_iff.2 FormatRule.json_injective
  simp only [json, typedEntry, Json.object.injEq, List.cons.injEq, Prod.mk.injEq, true_and,
    and_true, Json.ofOption_string_injective.eq_iff, Json.string.injEq, Json.bool.injEq,
    Json.int.injEq, Json.array.injEq, formats.eq_iff, Descriptor.json_injective.eq_iff,
    Descriptor.ofOption_json_injective.eq_iff] at same
  obtain ⟨carrierSpecific, code, emergency, fixedLine, general, id, international, intlFormats,
    leadingDigits, leadingZero, main, mobile, nationalPrefix, forParsing, transform,
    noInternational, formats, pager, personal, extension, preferred, premium, sameMobile, shared,
    shortCode, standard, tollFree, uan, voicemail, voip⟩ := same
  have typed : a.typed = b.typed := by
    funext kind
    cases kind <;> assumption
  cases a
  cases b
  simp only at *
  subst_vars
  rfl

theorem Collection.json_exact (collection : Collection) : collection.json.Exact := by
  refine .object fun member listed => ?_
  obtain rfl := List.mem_singleton.1 listed
  refine .array fun item among => ?_
  obtain ⟨territory, -, rfl⟩ := List.mem_map.1 among
  exact territory.json_exact

theorem Collection.json_injective : Function.Injective json := by
  intro a b same
  simp only [json, Json.object.injEq, List.cons.injEq, Prod.mk.injEq, true_and, and_true,
    Json.array.injEq] at same
  exact List.map_injective_iff.2 Territory.json_injective same

/-- Only equal collections have equal texts, and a text is printable ASCII with one byte for each
of its characters. -/
theorem Collection.text_unambiguous (a b : Collection) :
    (a.text = b.text ↔ a = b) ∧ (∀ c ∈ a.text.toList, 0x20 ≤ c.toNat ∧ c.toNat ≤ 0x7e) ∧
      a.text.toUTF8.size = a.text.length := by
  have printable := (Collection.json_exact a).printable
  refine ⟨?_, ?_, ?_⟩
  · refine ⟨fun same => ?_, congrArg text⟩
    exact json_injective ((a.json_exact.text_inj b.json_exact).1 same)
  · intro c inside
    rw [text, Json.text, String.toList_ofList] at inside
    exact printable c inside
  · rw [text, Json.text, Json.utf8_size_of_printable printable, String.length_ofList]

end Records

end NumberingPlan
