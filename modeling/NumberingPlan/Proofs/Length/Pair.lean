import NumberingPlan.Length.Pair

/-! Sets of lengths and their pairs. Two disjoint sets make a pair as they are. -/

namespace NumberingPlan

namespace LengthSet

@[simp] theorem not_mem_empty (x : Int) : x ∉ empty := by
  simp [empty, mem_def]

theorem isEmpty_iff {set : LengthSet} : set.isEmpty = true ↔ set = empty := by
  obtain ⟨values, sorted⟩ := set
  simp [isEmpty, empty]

theorem nodup (set : LengthSet) : set.toList.Nodup :=
  set.sorted.imp fun below => Int.ne_of_lt below

theorem eq_iff {a b : LengthSet} : a = b ↔ ∀ x, x ∈ a ↔ x ∈ b := by
  constructor
  · rintro rfl x
    rfl
  · exact ext

theorem toList_inj {a b : LengthSet} : a.toList = b.toList ↔ a = b := by
  obtain ⟨_, _⟩ := a
  obtain ⟨_, _⟩ := b
  simp

theorem eq_empty_iff {set : LengthSet} : set = empty ↔ ∀ x, x ∉ set := by
  simp only [eq_iff, not_mem_empty, iff_false]

theorem inter_eq_empty {a b : LengthSet} : a.inter b = empty ↔ ∀ x, x ∈ a → x ∉ b := by
  simp only [eq_empty_iff, mem_inter, not_and]

theorem inter_isEmpty {a b : LengthSet} : (a.inter b).isEmpty = true ↔ ∀ x, x ∈ a → x ∉ b :=
  isEmpty_iff.trans inter_eq_empty

/-- The order of a list is lost in the set. -/
theorem ofList_perm {values reordered : List Int} (order : reordered.Perm values) :
    ofList reordered = ofList values :=
  ext fun x => by simp only [mem_ofList, order.mem_iff]

@[simp] theorem ofList_toList (set : LengthSet) : ofList set.toList = set :=
  ext fun x => by rw [mem_ofList, mem_def]

end LengthSet

namespace LengthPair

theorem ext {a b : LengthPair} (national : a.national = b.national)
    (localOnly : a.localOnly = b.localOnly) : a = b := by
  obtain ⟨_, _, _⟩ := a
  obtain ⟨_, _, _⟩ := b
  obtain rfl := national
  obtain rfl := localOnly
  rfl

theorem distinct?_toList (set : LengthSet) : distinct? set.toList = some set := by
  simp [distinct?]

theorem ofLists_toList {national localOnly : LengthSet}
    (disjoint : ∀ x, x ∈ national → x ∉ localOnly) :
    ofLists national.toList localOnly.toList = .ok ⟨national, localOnly, disjoint⟩ := by
  have apart : (national.inter localOnly).toList = [] := by
    rw [LengthSet.inter_eq_empty.2 disjoint, LengthSet.empty]
  simp only [ofLists, distinct?_toList, apart, dite_true]

theorem absent_national : absent.national.toList = [absentLength] := by
  simp [absent, LengthSet.ofList, ascending, squeeze]

end LengthPair

end NumberingPlan
