import NumberingPlan.Collection
import NumberingPlan.Proofs.Fallible

/-! What a build comes to, apart from what it reports: every territory by itself, in document order,
up to the first one that fails. -/

namespace NumberingPlan

open Fallible
open Xml (Element)

variable [PatternReader]

theorem compileFiltered_ok {variant : Variant} {filter : Filter} {element : Element}
    {territory : Territory} :
    compileFiltered variant filter element = .ok territory ↔
      ∃ compiled, compileElement variant element = .ok compiled ∧
        territory = filter.apply compiled := by
  unfold compileFiltered
  cases compileElement variant element <;> simp [Except.map, eq_comm]

theorem compileFiltered_error {variant : Variant} {filter : Filter} {element : Element}
    {fault : Fault} :
    compileFiltered variant filter element = .error fault ↔
      compileElement variant element = .error fault := by
  unfold compileFiltered
  cases compileElement variant element <;> simp [Except.map]

theorem compileInOrder_result (variant : Variant) (filter : Filter) (elements : List Element) :
    (compileInOrder variant filter elements).2 =
      elements.mapM (compileFiltered variant filter) := by
  induction elements with
  | nil => rfl
  | cons element rest ih =>
    rw [List.mapM_cons, ← ih, compileInOrder, compileFiltered]
    cases compileElement variant element with
    | error fault => rfl
    | ok territory =>
      obtain ⟨more, others⟩ := compileInOrder variant filter rest
      cases others <;> rfl

theorem build_result (document : Document) (profile : Profile) {workers : Int}
    (enough : 1 ≤ workers) :
    (build document profile workers).result = profile.filter >>= fun filter =>
      document.territories.mapM (compileFiltered document.variant filter) := by
  rw [build, if_neg (by omega)]
  cases profile.filter with
  | error fault => rfl
  | ok filter =>
    simp only [ok_bind, ← compileInOrder_result]
    obtain ⟨log, result⟩ := compileInOrder document.variant filter document.territories
    cases result <;> rfl

theorem mapM_compileFiltered (variant : Variant) (filter : Filter) (elements : List Element) :
    elements.mapM (compileFiltered variant filter) =
      (elements.mapM (compileElement variant)).map (List.map filter.apply) := by
  induction elements with
  | nil => rfl
  | cons element rest ih =>
    rw [List.mapM_cons, List.mapM_cons, ih, compileFiltered]
    cases compileElement variant element with
    | error fault => rfl
    | ok territory => cases rest.mapM (compileElement variant) <;> rfl

section Built

variable {document : Document} {profile : Profile} {filter : Filter} {workers : Int}

/-- A build that succeeds has the filtered record of each territory in its place. -/
theorem build_ok (chosen : profile.filter = .ok filter) (enough : 1 ≤ workers)
    {collection : Collection} :
    (build document profile workers).result = .ok collection ↔
      List.Forall₂ (fun element territory => ∃ compiled,
          compileElement document.variant element = .ok compiled ∧
            territory = filter.apply compiled)
        document.territories collection := by
  rw [build_result document profile enough, chosen, ok_bind, mapM_ok]
  simp only [compileFiltered_ok]

/-- A build that fails has the fault of the first territory that fails. -/
theorem build_error (chosen : profile.filter = .ok filter) (enough : 1 ≤ workers) {fault : Fault} :
    (build document profile workers).result = .error fault ↔ ∃ before element after,
      document.territories = before ++ element :: after ∧
        (∀ earlier ∈ before, ∃ compiled, compileElement document.variant earlier = .ok compiled) ∧
        compileElement document.variant element = .error fault := by
  rw [build_result document profile enough, chosen, ok_bind, mapM_error]
  simp only [compileFiltered_ok, compileFiltered_error, exists_comm (α := Territory),
    exists_and_left, exists_eq, and_true]

/-- A build that succeeds was asked for properly. -/
theorem build_asked {collection : Collection}
    (built : (build document profile workers).result = .ok collection) :
    1 ≤ workers ∧ ∃ filter, profile.filter = .ok filter := by
  have enough : 1 ≤ workers := by
    by_contra few
    rw [build, if_pos (by omega)] at built
    cases built
  rw [build_result document profile enough] at built
  obtain ⟨filter, chosen, -⟩ := bind_ok.1 built
  exact ⟨enough, filter, chosen⟩

/-- A profile works on what the build without one makes. -/
theorem build_eq_map (chosen : profile.filter = .ok filter) (enough : 1 ≤ workers) :
    (build document profile workers).result =
      (build document {} workers).result.map (List.map filter.apply) := by
  have plain : Profile.filter {} = .ok {} := rfl
  have unfiltered : Filter.apply {} = id := funext Filter.apply_empty
  rw [build_result document profile enough, build_result document {} enough, chosen, plain,
    ok_bind, ok_bind, mapM_compileFiltered, mapM_compileFiltered, unfiltered, List.map_id_fun]
  cases document.territories.mapM (compileElement document.variant) <;> rfl

theorem build_filtered (chosen : profile.filter = .ok filter) {full : Collection}
    (built : (build document {} workers).result = .ok full) :
    (build document profile workers).result = .ok (full.map filter.apply) := by
  rw [build_eq_map chosen (build_asked built).1, built]
  rfl

end Built

end NumberingPlan
