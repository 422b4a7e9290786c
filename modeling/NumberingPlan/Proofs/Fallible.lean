import Mathlib.Data.List.Perm.Basic

/-! Opening computations that may fail. A sequence of steps succeeds when every step does, and a
step over a list fails with the fault of the first member that fails. -/

namespace NumberingPlan.Fallible

variable {ε ε' α β : Type} {kind : ε → Prop}

@[simp] theorem ok_bind (a : α) (f : α → Except ε β) : Except.ok a >>= f = f a := rfl

@[simp] theorem error_bind (e : ε) (f : α → Except ε β) : Except.error e >>= f = .error e := rfl

theorem bind_ok {x : Except ε α} {f : α → Except ε β} {b : β} :
    x >>= f = .ok b ↔ ∃ a, x = .ok a ∧ f a = .ok b := by
  cases x <;> simp [bind, Except.bind]

theorem bind_error {x : Except ε α} {f : α → Except ε β} {e : ε} :
    x >>= f = .error e ↔ x = .error e ∨ ∃ a, x = .ok a ∧ f a = .error e := by
  cases x <;> simp [bind, Except.bind]

theorem map_ok {x : Except ε α} {f : α → β} {b : β} :
    x.map f = .ok b ↔ ∃ a, x = .ok a ∧ f a = b := by
  cases x <;> simp [Except.map]

theorem map_error {x : Except ε α} {f : α → β} {e : ε} :
    f <$> x = .error e ↔ x = .error e := by
  cases x <;> simp [Functor.map, Except.map]

theorem mapError_ok {x : Except ε α} {f : ε → ε'} {a : α} :
    x.mapError f = .ok a ↔ x = .ok a := by
  cases x <;> simp [Except.mapError]

theorem mapError_error {x : Except ε α} {f : ε → ε'} {e : ε'} :
    x.mapError f = .error e ↔ ∃ cause, x = .error cause ∧ f cause = e := by
  cases x <;> simp [Except.mapError]

theorem isOk_iff {x : Except ε α} : x.isOk = true ↔ ∃ a, x = .ok a := by
  cases x <;> simp [Except.isOk, Except.toBool]

theorem mapM_ok {f : α → Except ε β} {xs : List α} {ys : List β} :
    xs.mapM f = .ok ys ↔ List.Forall₂ (fun x y => f x = .ok y) xs ys := by
  induction xs generalizing ys with
  | nil => cases ys <;> simp [pure, Except.pure]
  | cons x rest ih =>
    simp only [List.mapM_cons, bind_ok, ih, pure, Except.pure, Except.ok.injEq]
    constructor
    · rintro ⟨y, first, others, later, rfl⟩
      exact .cons first later
    · rintro (_ | ⟨first, later⟩)
      exact ⟨_, first, _, later, rfl⟩

theorem mapM_ok_iff_map {f : α → Except ε β} {xs : List α} {ys : List β} :
    xs.mapM f = .ok ys ↔ xs.map f = ys.map .ok := by
  rw [mapM_ok, ← List.forall₂_eq_eq_eq, List.forall₂_map_left_iff, List.forall₂_map_right_iff]

/-- Steps that check what goes in, and what comes out of which is known beforehand. -/
theorem mapM_ok_map {f : α → Except ε β} {g : α → β} {p : α → Prop}
    (each : ∀ x y, f x = .ok y ↔ p x ∧ y = g x) {xs : List α} {ys : List β} :
    xs.mapM f = .ok ys ↔ (∀ x ∈ xs, p x) ∧ ys = xs.map g := by
  have image : List.Forall₂ (fun x y => y = g x) xs ys ↔ ys = xs.map g := by
    induction xs generalizing ys with
    | nil => simp
    | cons x rest ih => cases ys <;> simp [ih]
  rw [mapM_ok]
  simp only [each, List.forall₂_and_left, image]

theorem mapM_congr {f g : α → Except ε β} {xs : List α} (same : ∀ x ∈ xs, f x = g x) :
    xs.mapM f = xs.mapM g := by
  induction xs with
  | nil => rfl
  | cons x rest ih =>
    rw [List.forall_mem_cons] at same
    rw [List.mapM_cons, List.mapM_cons, same.1, ih same.2]

theorem optionMapM_ok {f : α → Except ε β} {given : Option α} {made : Option β} :
    given.mapM f = .ok made ↔ Option.Rel (fun x y => f x = .ok y) given made := by
  cases given with
  | none => cases made <;> simp [pure, Except.pure]
  | some x => cases made <;> cases run : f x <;> simp [run, Functor.map, Except.map]

theorem mapM_succeeds {f : α → Except ε β} {xs : List α} :
    (∃ ys, xs.mapM f = .ok ys) ↔ ∀ x ∈ xs, ∃ y, f x = .ok y := by
  simp only [mapM_ok]
  induction xs with
  | nil => simp
  | cons x rest ih =>
    rw [List.forall_mem_cons, ← ih]
    constructor
    · rintro ⟨_, _ | ⟨first, later⟩⟩
      exact ⟨⟨_, first⟩, ⟨_, later⟩⟩
    · rintro ⟨⟨y, first⟩, ⟨others, later⟩⟩
      exact ⟨y :: others, .cons first later⟩

/-- What comes out belongs to something that went in, and the other way round. -/
theorem exists_mem_of_mapM {f : α → Except ε β} {xs : List α} {ys : List β}
    (run : xs.mapM f = .ok ys) {p : β → Prop} :
    (∃ y ∈ ys, p y) ↔ ∃ x ∈ xs, ∃ y, f x = .ok y ∧ p y := by
  rw [mapM_ok] at run
  induction run with
  | nil => simp
  | cons first _ ih => simp [ih, first]

theorem mem_mapM {f : α → Except ε β} {xs : List α} {ys : List β} (run : xs.mapM f = .ok ys)
    {y : β} (member : y ∈ ys) : ∃ x ∈ xs, f x = .ok y := by
  obtain ⟨x, among, _, given, rfl⟩ := (exists_mem_of_mapM run).1 ⟨y, member, rfl⟩
  exact ⟨x, among, given⟩

theorem mem_optionMapM {f : α → Except ε β} {given : Option α} {made : Option β}
    (run : given.mapM f = .ok made) {y : β} (member : y ∈ made) : ∃ x ∈ given, f x = .ok y := by
  obtain rfl := Option.mem_def.1 member
  cases optionMapM_ok.1 run with
  | some one => exact ⟨_, rfl, one⟩

/-- Steps that succeed in one order do so in any other. -/
theorem mapM_perm {f : α → Except ε β} {xs xs' : List α} {ys : List β} (same : xs'.Perm xs)
    (run : xs.mapM f = .ok ys) : ∃ ys', xs'.mapM f = .ok ys' ∧ ys'.Perm ys := by
  rw [mapM_ok] at run
  obtain ⟨ys', later, order⟩ := List.perm_comp_forall₂ same run
  exact ⟨ys', mapM_ok.2 later, order⟩

/-- The fault that is told is that of the first member that fails. -/
theorem mapM_error {f : α → Except ε β} {xs : List α} {e : ε} :
    xs.mapM f = .error e ↔ ∃ before x after, xs = before ++ x :: after ∧
      (∀ y ∈ before, ∃ b, f y = .ok b) ∧ f x = .error e := by
  induction xs with
  | nil => simp [pure, Except.pure]
  | cons first rest ih =>
    rw [List.mapM_cons, bind_error]
    constructor
    · rintro (fails | ⟨b, succeeds, later⟩)
      · exact ⟨[], first, rest, rfl, by simp, fails⟩
      · rw [bind_error, ih] at later
        rcases later with ⟨before, x, after, rfl, fine, fails⟩ | ⟨others, _, impossible⟩
        · refine ⟨first :: before, x, after, rfl, ?_, fails⟩
          simpa using ⟨⟨b, succeeds⟩, fine⟩
        · simp [pure, Except.pure] at impossible
    · rintro ⟨before, x, after, same, fine, fails⟩
      cases before with
      | nil =>
        obtain ⟨rfl, rfl⟩ := List.cons.inj same
        exact .inl fails
      | cons y before =>
        obtain ⟨rfl, rfl⟩ := List.cons.inj same
        obtain ⟨b, succeeds⟩ := fine first List.mem_cons_self
        refine .inr ⟨b, succeeds, bind_error.2 (.inl (ih.2 ?_))⟩
        exact ⟨before, x, after, rfl, fun y member => fine y (.tail _ member), fails⟩

/-- What goes wrong with the members, each taken by itself. -/
def faults (f : α → Except ε β) (xs : List α) : List ε :=
  xs.filterMap fun x => match f x with
    | .ok _ => none
    | .error e => some e

theorem mem_faults {f : α → Except ε β} {xs : List α} {e : ε} :
    e ∈ faults f xs ↔ ∃ x ∈ xs, f x = .error e := by
  simp only [faults, List.mem_filterMap]
  refine exists_congr fun x => and_congr_right fun _ => ?_
  cases f x <;> simp

theorem mapM_error_iff_head {f : α → Except ε β} {xs : List α} {e : ε} :
    xs.mapM f = .error e ↔ (faults f xs).head? = some e := by
  induction xs with
  | nil => simp [faults, pure, Except.pure]
  | cons x rest ih =>
    rw [List.mapM_cons]
    cases run : f x with
    | error own => simp [faults, run]
    | ok y =>
      have later : faults f (x :: rest) = faults f rest := by simp [faults, run]
      rw [later, ← ih, ok_bind, bind_error]
      simp [pure, Except.pure]

/-- Whatever goes wrong is of one kind. -/
def FailsOnly (kind : ε → Prop) (x : Except ε α) : Prop := ∀ e, x = .error e → kind e

namespace FailsOnly

theorem ok (a : α) : FailsOnly kind (.ok a) := nofun

theorem error {e : ε} (known : kind e) : FailsOnly kind (.error e : Except ε α) := by
  rintro _ ⟨⟩
  exact known

/-- The second step needs to be known only for what the first one can give. -/
theorem bind_given {x : Except ε α} {f : α → Except ε β} (first : FailsOnly kind x)
    (next : ∀ a, x = .ok a → FailsOnly kind (f a)) : FailsOnly kind (x >>= f) := by
  intro e failed
  rcases bind_error.1 failed with early | ⟨a, given, late⟩
  · exact first e early
  · exact next a given e late

theorem bind {x : Except ε α} {f : α → Except ε β} (first : FailsOnly kind x)
    (next : ∀ a, FailsOnly kind (f a)) : FailsOnly kind (x >>= f) :=
  first.bind_given fun a _ => next a

theorem mapM {f : α → Except ε β} {xs : List α} (each : ∀ x ∈ xs, FailsOnly kind (f x)) :
    FailsOnly kind (xs.mapM f) := by
  intro e failed
  obtain ⟨before, x, after, rfl, -, failed⟩ := mapM_error.1 failed
  exact each x (by simp) e failed

theorem optionMapM {f : α → Except ε β} {given : Option α}
    (each : ∀ x ∈ given, FailsOnly kind (f x)) : FailsOnly kind (given.mapM f) := by
  cases given with
  | none => exact ok none
  | some x => exact fun e failed => each x rfl e (map_error.1 failed)

theorem mapError {x : Except ε' α} {f : ε' → ε} (known : ∀ e, x = .error e → kind (f e)) :
    FailsOnly kind (x.mapError f) := by
  intro e failed
  obtain ⟨cause, stopped, rfl⟩ := mapError_error.1 failed
  exact known cause stopped

end FailsOnly

end NumberingPlan.Fallible
