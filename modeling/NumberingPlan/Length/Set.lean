/-! Finite sets of lengths, kept as strictly ascending lists. Two sets are equal exactly when
they have the same members, so comparing the lists compares the sets. -/

namespace NumberingPlan

/-- Drops every element that equals the one before it. -/
def squeeze : List Int → List Int
  | [] => []
  | [a] => [a]
  | a :: b :: rest => if a = b then squeeze (b :: rest) else a :: squeeze (b :: rest)

theorem mem_squeeze (x : Int) (values : List Int) : x ∈ squeeze values ↔ x ∈ values := by
  fun_induction squeeze values with
  | case1 => simp
  | case2 a => simp
  | case3 a rest ih => simp [ih]
  | case4 a b rest distinct ih => simp [ih]

theorem squeeze_ascending (values : List Int) (sorted : values.Pairwise (· ≤ ·)) :
    (squeeze values).Pairwise (· < ·) := by
  fun_induction squeeze values with
  | case1 => exact .nil
  | case2 a => exact List.pairwise_singleton _ _
  | case3 a rest ih => exact ih (List.pairwise_cons.1 sorted).2
  | case4 a b rest distinct ih =>
    have tail := (List.pairwise_cons.1 sorted).2
    refine List.pairwise_cons.2 ⟨fun x member => ?_, ih tail⟩
    rw [mem_squeeze] at member
    have above : b ≤ x := by
      rcases List.mem_cons.1 member with rfl | later
      · exact Int.le_refl _
      · exact (List.pairwise_cons.1 tail).1 x later
    have below := (List.pairwise_cons.1 sorted).1 b List.mem_cons_self
    omega

/-- The distinct members of a list in ascending order. -/
def ascending (values : List Int) : List Int :=
  squeeze (values.mergeSort (fun a b => decide (a ≤ b)))

theorem mem_ascending (x : Int) (values : List Int) : x ∈ ascending values ↔ x ∈ values := by
  simp [ascending, mem_squeeze]

theorem ascending_pairwise (values : List Int) : (ascending values).Pairwise (· < ·) := by
  refine squeeze_ascending _ ?_
  have sorted := @List.pairwise_mergeSort Int (fun a b => decide (a ≤ b))
    (fun a b c ab bc => by simp at *; omega) (fun a b => by simp; omega) values
  exact sorted.imp (fun h => by simpa using h)

/-- A strictly ascending list of lengths. -/
structure LengthSet where
  toList : List Int
  sorted : toList.Pairwise (· < ·)
  deriving DecidableEq

namespace LengthSet

instance : Membership Int LengthSet := ⟨fun set x => x ∈ set.toList⟩

instance (x : Int) (set : LengthSet) : Decidable (x ∈ set) :=
  inferInstanceAs (Decidable (x ∈ set.toList))

theorem mem_def (x : Int) (set : LengthSet) : x ∈ set ↔ x ∈ set.toList := Iff.rfl

def empty : LengthSet := ⟨[], .nil⟩

instance : Inhabited LengthSet := ⟨empty⟩

def isEmpty (set : LengthSet) : Bool := set.toList.isEmpty

def ofList (values : List Int) : LengthSet :=
  ⟨ascending values, ascending_pairwise values⟩

@[simp] theorem mem_ofList (x : Int) (values : List Int) : x ∈ ofList values ↔ x ∈ values :=
  mem_ascending x values

/-- The members of `a` that pass the test. -/
def filter (p : Int → Bool) (a : LengthSet) : LengthSet :=
  ⟨a.toList.filter p, a.sorted.filter p⟩

@[simp] theorem mem_filter (p : Int → Bool) (x : Int) (a : LengthSet) :
    x ∈ a.filter p ↔ x ∈ a ∧ p x = true := by
  simp [filter, mem_def]

def inter (a b : LengthSet) : LengthSet := a.filter (fun x => decide (x ∈ b))

@[simp] theorem mem_inter (x : Int) (a b : LengthSet) : x ∈ a.inter b ↔ x ∈ a ∧ x ∈ b := by
  simp [inter]

/-- A set is determined by its members. -/
theorem ext {a b : LengthSet} (same : ∀ x, x ∈ a ↔ x ∈ b) : a = b := by
  obtain ⟨as, sortedA⟩ := a
  obtain ⟨bs, sortedB⟩ := b
  congr
  induction as generalizing bs with
  | nil =>
    cases bs with
    | nil => rfl
    | cons b bs => exact absurd ((same b).2 List.mem_cons_self) (by simp [mem_def])
  | cons a as ih =>
    cases bs with
    | nil => exact absurd ((same a).1 List.mem_cons_self) (by simp [mem_def])
    | cons b bs =>
      obtain ⟨belowA, tailA⟩ := List.pairwise_cons.1 sortedA
      obtain ⟨belowB, tailB⟩ := List.pairwise_cons.1 sortedB
      have heads : a = b := by
        have inB : a ∈ b :: bs := (same a).1 List.mem_cons_self
        have inA : b ∈ a :: as := (same b).2 List.mem_cons_self
        rcases List.mem_cons.1 inB with eq | later
        · exact eq
        · rcases List.mem_cons.1 inA with eq | later'
          · exact eq.symm
          · have := belowA b later'
            have := belowB a later
            omega
      subst heads
      refine congrArg _ (ih tailA bs tailB ?_)
      intro x
      have full : x ∈ a :: as ↔ x ∈ a :: bs := same x
      simp only [List.mem_cons] at full
      constructor
      · intro member
        have above := belowA x member
        rcases full.1 (.inr member) with rfl | found
        · omega
        · exact found
      · intro member
        have above := belowB x member
        rcases full.2 (.inr member) with rfl | found
        · omega
        · exact found

/-- The members in ascending order, separated by commas. -/
def text (set : LengthSet) : String :=
  ",".intercalate (set.toList.map toString)

end LengthSet

end NumberingPlan
