import NumberingPlan.Format
import NumberingPlan.Proofs.Text.Substitution

/-! Filling in the rules of a format. A prefix rule takes the prefix before the first group, a
carrier rule the first group before the prefix. For a prefix without the characters of the other
token the same text makes the same rule of either kind. -/

namespace NumberingPlan

open Text (Slot ClearOf Filled)
open Xml (Element)

/-- Where a rule takes the national prefix. -/
def prefixSlot (nationalPrefix : String) : Slot :=
  ⟨Vocabulary.nationalPrefixToken.toList, nationalPrefix.toList⟩

/-- Where a rule takes the first group. -/
def groupSlot : Slot := ⟨Vocabulary.firstGroupToken.toList, Vocabulary.firstGroup.toList⟩

section Rules

variable (element : Element) (nationalPrefix : String)

theorem prefixRuleOf_eq_fill :
    prefixRuleOf element nationalPrefix = nonempty? (String.ofList (groupSlot.fill
      ((prefixSlot nationalPrefix).fill
        (element.value Vocabulary.nationalPrefixFormattingRule).toList))) := by
  simp only [prefixRuleOf, replaceFirst, String.toList_ofList]
  rfl

theorem carrierRuleOf_eq_fill :
    carrierRuleOf element nationalPrefix = nonempty? (String.ofList
      ((prefixSlot nationalPrefix).fill
        (groupSlot.fill (element.value Vocabulary.carrierCodeFormattingRule).toList))) := by
  simp only [carrierRuleOf, replaceFirst, String.toList_ofList]
  rfl

end Rules

section Clear

theorem groupToken_clear_of_prefixToken :
    ClearOf Vocabulary.firstGroupToken.toList Vocabulary.nationalPrefixToken.toList :=
  ⟨by decide, by decide, by simp [Vocabulary.firstGroupToken, Vocabulary.nationalPrefixToken],
    by decide⟩

theorem prefixToken_clear_of_group :
    ClearOf Vocabulary.nationalPrefixToken.toList Vocabulary.firstGroup.toList :=
  ⟨by decide, by decide, by simp [Vocabulary.nationalPrefixToken, Vocabulary.firstGroup],
    by decide⟩

variable {nationalPrefix : String} (nonempty : nationalPrefix ≠ "")
  (ordinary : ∀ c ∈ nationalPrefix.toList, c ≠ '$' ∧ c ≠ 'F' ∧ c ≠ 'G')

include nonempty ordinary

theorem groupToken_clear_of_prefix :
    ClearOf groupSlot.token (prefixSlot nationalPrefix).piece := by
  constructor
  case inner => decide
  case nonempty => simpa [prefixSlot] using nonempty
  case apart =>
    intro c inside inner
    obtain ⟨-, notF, notG⟩ := ordinary c inside
    have letters : c = 'F' ∨ c = 'G' := by
      simpa [groupSlot, Vocabulary.firstGroupToken] using inner
    exact letters.elim notF notG
  case last =>
    intro last
    have dollar : '$' ∈ nationalPrefix.toList := List.mem_of_getLast? last
    exact (ordinary '$' dollar).1 rfl

/-- A rule text makes the same prefix rule as carrier rule: none if it is empty, else the text with
the prefix and the first group put where their tokens stood first in it. -/
theorem prefixRuleOf_eq_carrierRuleOf {rule : String} {prefixed carried : Element}
    (ofPrefix : prefixed.value Vocabulary.nationalPrefixFormattingRule = rule)
    (ofCarrier : carried.value Vocabulary.carrierCodeFormattingRule = rule) :
    prefixRuleOf prefixed nationalPrefix = carrierRuleOf carried nationalPrefix ∧
    ∃ filled, Filled (prefixSlot nationalPrefix) groupSlot rule.toList filled ∧
      carrierRuleOf carried nationalPrefix =
        if rule = "" then none else some (String.ofList filled) := by
  have clearPiece := groupToken_clear_of_prefix nonempty ordinary
  obtain ⟨filled, together⟩ : ∃ filled,
      Filled (prefixSlot nationalPrefix) groupSlot rule.toList filled :=
    Text.exists_filled groupToken_clear_of_prefixToken rule.toList
  have prefixFirst := together.in_turn clearPiece
  have groupFirst := together.swap.in_turn prefixToken_clear_of_group
  rw [prefixRuleOf_eq_fill, carrierRuleOf_eq_fill, ofPrefix, ofCarrier, prefixFirst, groupFirst]
  refine ⟨rfl, filled, together, ?_⟩
  by_cases empty : rule = ""
  · subst empty
    obtain rfl : [] = filled := prefixFirst
    rfl
  · have chars : rule.toList ≠ [] := by simpa using empty
    have made : filled ≠ [] :=
      together.ne_nil chars clearPiece.nonempty prefixToken_clear_of_group.nonempty
    simp [nonempty?, made, empty]

end Clear

/-- Filled in with the prefix NP, the rule has the token of a prefix again, across a seam, where it
stays. -/
def nestedPrefix : Element :=
  ⟨"numberFormat", [("nationalPrefixFormattingRule", "$FG $$NP")], []⟩

def nestedCarrier : Element :=
  ⟨"numberFormat", [("carrierCodeFormattingRule", "$FG $$NP")], []⟩

theorem prefixRuleOf_nestedPrefix :
    "NP" ≠ "" ∧ (∀ c ∈ "NP".toList, c ≠ '$' ∧ c ≠ 'F' ∧ c ≠ 'G') ∧
      nestedPrefix.value Vocabulary.nationalPrefixFormattingRule = "$FG $$NP" ∧
      nestedCarrier.value Vocabulary.carrierCodeFormattingRule = "$FG $$NP" ∧
      prefixRuleOf nestedPrefix "NP" = carrierRuleOf nestedCarrier "NP" ∧
      carrierRuleOf nestedCarrier "NP" = some "$\x7b1\x7d $NP" := by
  have nonempty : "NP" ≠ "" := by decide
  have ordinary : ∀ c ∈ "NP".toList, c ≠ '$' ∧ c ≠ 'F' ∧ c ≠ 'G' := by simp
  have agree := prefixRuleOf_eq_carrierRuleOf nonempty ordinary
    (show nestedPrefix.value Vocabulary.nationalPrefixFormattingRule = "$FG $$NP" from rfl)
    (show nestedCarrier.value Vocabulary.carrierCodeFormattingRule = "$FG $$NP" from rfl)
  exact ⟨nonempty, ordinary, rfl, rfl, agree.1, rfl⟩

-- An empty prefix brings the two parts of another token together, and the orders part.
example :
    prefixRuleOf ⟨"numberFormat", [("nationalPrefixFormattingRule", "$$NPFG")], []⟩ "" =
        some "$\x7b1\x7d" ∧
      carrierRuleOf ⟨"numberFormat", [("carrierCodeFormattingRule", "$$NPFG")], []⟩ "" =
        some "$FG" := by
  decide

end NumberingPlan
