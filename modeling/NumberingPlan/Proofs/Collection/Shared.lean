import NumberingPlan.Pool
import NumberingPlan.Proofs.Collection.Sequence
import NumberingPlan.Standard

/-! Builds whose territories are shared among workers. Whatever the workers take up first and
whoever comes back first, a result is put into the slot of its own task, and what is handed back is
what one worker would have given. No order of moves gets stuck, and none goes on for ever. -/

namespace NumberingPlan

open Fallible
open Xml (Element)

namespace Slots

variable {ε α β : Type}

/-- Results that stand in their own slots are handed back as if the tasks had run in order. -/
theorem gather_eq {task : α → Except ε β} {inputs : List α} {slots : Slots (Except ε β)}
    (length : slots.length = inputs.length)
    (filled : ∀ (index : Nat) (input : α) (result : Except ε β),
      inputs[index]? = some input → slots[index]? = some (some result) → result = task input)
    {outcome : Except ε (List β)} (handed : slots.gather = some outcome) :
    outcome = inputs.mapM task := by
  induction inputs generalizing slots outcome with
  | nil =>
    obtain rfl := List.length_eq_zero_iff.1 length
    simpa [gather, pure, Except.pure, eq_comm] using handed
  | cons input rest ih =>
    obtain ⟨slot, more, rfl⟩ := List.exists_cons_of_length_eq_add_one length
    rw [List.mapM_cons]
    cases slot with
    | none => simp [gather] at handed
    | some result =>
      have own : result = task input := filled 0 input result rfl rfl
      rw [← own]
      cases result with
      | error fault => simpa [gather, eq_comm] using handed
      | ok value =>
        obtain ⟨others, later, rfl⟩ := Option.map_eq_some_iff.1 handed
        have behind : others = rest.mapM task :=
          ih (by simpa using length) (fun index => filled (index + 1)) later
        rw [← behind]
        cases others <;> rfl

theorem gather_of_full {slots : Slots (Except ε β)} (full : none ∉ slots) :
    ∃ outcome, slots.gather = some outcome := by
  induction slots with
  | nil => exact ⟨_, rfl⟩
  | cons slot rest ih =>
    rw [List.mem_cons, not_or] at full
    obtain ⟨others, later⟩ := ih full.2
    match slot with
    | none => exact absurd rfl full.1
    | some (.error fault) => exact ⟨_, rfl⟩
    | some (.ok value) => exact ⟨_, by rw [gather, later]; rfl⟩

end Slots

namespace Pool

variable {α β : Type} {workers : Nat} {task : α → β} {inputs : List α}

section Moves

/-- Everything that can happen in a pool. -/
theorem step?_cases {pool next : Pool β} {move : Move}
    (moved : pool.step? workers task inputs move = some next) :
    (∃ index, move = .take index ∧ index ∈ pool.waiting ∧ pool.running.length < workers ∧
      next = ⟨pool.waiting.erase index, index :: pool.running, pool.slots⟩) ∨
    ∃ index input, move = .finish index ∧ index ∈ pool.running ∧ inputs[index]? = some input ∧
      next = ⟨pool.waiting, pool.running.erase index,
        pool.slots.set index (some (task input))⟩ := by
  cases move with
  | take index =>
    simp only [step?, Option.ite_none_right_eq_some, Option.some.injEq] at moved
    exact .inl ⟨index, rfl, moved.1.1, moved.1.2, moved.2.symm⟩
  | finish index =>
    simp only [step?, Option.ite_none_right_eq_some, Option.map_eq_some_iff] at moved
    obtain ⟨held, input, given, same⟩ := moved
    exact .inr ⟨index, input, rfl, held, given, same.symm⟩

theorem run?_append (pool : Pool β) (moves more : List Move) :
    pool.run? workers task inputs (moves ++ more) =
      (pool.run? workers task inputs moves).bind (run? workers task inputs · more) := by
  induction moves generalizing pool with
  | nil => rfl
  | cons move rest ih =>
    rw [List.cons_append, run?, run?, Option.bind_assoc]
    exact congrArg _ (funext ih)

/-- Every move brings the end nearer. -/
theorem movesLeft_step {pool next : Pool β} {move : Move}
    (moved : pool.step? workers task inputs move = some next) :
    next.movesLeft + 1 = pool.movesLeft := by
  rcases step?_cases moved with ⟨index, -, waits, -, rfl⟩ | ⟨index, input, -, held, -, rfl⟩
  · have := List.length_erase_of_mem waits
    have := List.length_pos_of_mem waits
    simp only [movesLeft, List.length_cons]
    omega
  · have := List.length_erase_of_mem held
    have := List.length_pos_of_mem held
    simp only [movesLeft]
    omega

theorem movesLeft_run {pool last : Pool β} {moves : List Move}
    (ran : pool.run? workers task inputs moves = some last) :
    last.movesLeft + moves.length = pool.movesLeft := by
  induction moves generalizing pool with
  | nil => simp_all [run?]
  | cons move rest ih =>
    obtain ⟨next, moved, later⟩ := Option.bind_eq_some_iff.1 ran
    have := ih later
    have := movesLeft_step moved
    simp only [List.length_cons]
    omega

end Moves

/-- A pool in which no task is lost or done twice, and every result is that of its own task. -/
structure Sound (workers : Nat) (task : α → β) (inputs : List α) (pool : Pool β) : Prop where
  length : pool.slots.length = inputs.length
  distinct : (pool.waiting ++ pool.running).Nodup
  awaited : ∀ index : Nat,
    index ∈ pool.waiting ∨ index ∈ pool.running ↔ pool.slots[index]? = some none
  filled : ∀ (index : Nat) (input : α) (result : β), inputs[index]? = some input →
    pool.slots[index]? = some (some result) → result = task input
  busy : pool.running.length ≤ workers

namespace Sound

theorem start : Sound workers task inputs (.start inputs.length) where
  length := by simp [Pool.start]
  distinct := by simpa [Pool.start] using List.nodup_range
  awaited index := by simp [Pool.start, List.getElem?_replicate]
  filled index input result _ held := by simp [Pool.start, List.getElem?_replicate] at held
  busy := by simp [Pool.start]

/-- A task that somebody has is one of the tasks. -/
theorem exists_input {pool : Pool β} (sound : Sound workers task inputs pool) {index : Nat}
    (held : index ∈ pool.running) : ∃ input, inputs[index]? = some input := by
  obtain ⟨inside, -⟩ := List.getElem?_eq_some_iff.1 ((sound.awaited index).1 (.inr held))
  have inside : index < inputs.length := sound.length ▸ inside
  exact ⟨inputs[index], List.getElem?_eq_getElem inside⟩

/-- A task that is taken goes from those that wait to those that run; no slot changes. -/
theorem take {pool : Pool β} (sound : Sound workers task inputs pool) {index : Nat}
    (waits : index ∈ pool.waiting) (free : pool.running.length < workers) :
    Sound workers task inputs
      ⟨pool.waiting.erase index, index :: pool.running, pool.slots⟩ := by
  have moves : (pool.waiting.erase index ++ index :: pool.running).Perm
      (pool.waiting ++ pool.running) :=
    List.perm_middle.trans ((List.perm_cons_erase waits).symm.append_right pool.running)
  constructor
  case length => exact sound.length
  case distinct => exact moves.nodup_iff.2 sound.distinct
  case awaited =>
    intro other
    rw [← sound.awaited other, ← List.mem_append, ← List.mem_append, moves.mem_iff]
  case filled => exact sound.filled
  case busy => exact free

/-- A task that is finished leaves those that run; its slot, and no other, gets its result. -/
theorem finish {pool : Pool β} (sound : Sound workers task inputs pool) {index : Nat} {input : α}
    (held : index ∈ pool.running) (given : inputs[index]? = some input) :
    Sound workers task inputs
      ⟨pool.waiting, pool.running.erase index, pool.slots.set index (some (task input))⟩ := by
  have inside : index < pool.slots.length :=
    (List.getElem?_eq_some_iff.1 ((sound.awaited index).1 (.inr held))).1
  obtain ⟨-, once, apart⟩ := List.nodup_append.1 sound.distinct
  have elsewhere : index ∉ pool.waiting := fun waits => apart index waits index held rfl
  constructor
  case length => simpa using sound.length
  case distinct =>
    exact sound.distinct.sublist (List.erase_sublist.append_left pool.waiting)
  case awaited =>
    intro other
    simp only [once.mem_erase_iff, List.getElem?_set]
    by_cases same : index = other
    · subst same
      simp [elsewhere, inside]
    · simp [same, Ne.symm same, ← sound.awaited other]
  case filled =>
    intro other otherInput result otherGiven
    rw [List.getElem?_set]
    by_cases same : index = other
    · subst same
      rw [given, Option.some.injEq] at otherGiven
      simp [inside, otherGiven, eq_comm]
    · simpa [same] using sound.filled other otherInput result otherGiven
  case busy => exact Nat.le_trans List.length_erase_le sound.busy

theorem step {pool next : Pool β} {move : Move} (sound : Sound workers task inputs pool)
    (moved : pool.step? workers task inputs move = some next) :
    Sound workers task inputs next := by
  rcases step?_cases moved with ⟨index, -, waits, free, rfl⟩ | ⟨index, input, -, held, given, rfl⟩
  · exact sound.take waits free
  · exact sound.finish held given

theorem run {pool last : Pool β} {moves : List Move} (sound : Sound workers task inputs pool)
    (ran : pool.run? workers task inputs moves = some last) : Sound workers task inputs last := by
  induction moves generalizing pool with
  | nil =>
    obtain rfl : pool = last := by simpa [run?] using ran
    exact sound
  | cons move rest ih =>
    obtain ⟨next, moved, later⟩ := Option.bind_eq_some_iff.1 ran
    exact ih (sound.step moved) later

/-- While tasks are left, a worker can take one up or come back from one. -/
theorem exists_step {pool : Pool β} (sound : Sound workers task inputs pool) (enough : 1 ≤ workers)
    (unfinished : pool.isFinished = false) :
    ∃ move next, pool.step? workers task inputs move = some next := by
  cases running : pool.running with
  | cons index rest =>
    have held : index ∈ pool.running := by simp [running]
    obtain ⟨input, given⟩ := sound.exists_input held
    exact ⟨.finish index, _, by rw [step?, if_pos held, given]; rfl⟩
  | nil =>
    cases waiting : pool.waiting with
    | nil => simp [isFinished, running, waiting] at unfinished
    | cons index rest =>
      have free : index ∈ pool.waiting ∧ pool.running.length < workers :=
        ⟨by simp [waiting], by rw [running]; exact enough⟩
      exact ⟨.take index, _, by rw [step?, if_pos free]⟩

theorem exists_run {pool : Pool β} (sound : Sound workers task inputs pool)
    (enough : 1 ≤ workers) :
    ∃ moves last, pool.run? workers task inputs moves = some last ∧ last.isFinished = true := by
  induction left : pool.movesLeft generalizing pool with
  | zero =>
    have none : pool.waiting.length = 0 ∧ pool.running.length = 0 := by
      unfold movesLeft at left
      omega
    rw [List.length_eq_zero_iff, List.length_eq_zero_iff] at none
    exact ⟨[], pool, rfl, by simp [isFinished, none]⟩
  | succ count ih =>
    cases finished : pool.isFinished with
    | true => exact ⟨[], pool, rfl, finished⟩
    | false =>
      obtain ⟨move, next, moved⟩ := sound.exists_step enough finished
      have := movesLeft_step moved
      obtain ⟨moves, last, ran, finished⟩ := ih (sound.step moved) (by omega)
      exact ⟨move :: moves, last, by rw [run?, moved, Option.bind_some, ran], finished⟩

theorem full {pool : Pool β} (sound : Sound workers task inputs pool)
    (finished : pool.isFinished = true) : none ∉ pool.slots := by
  intro awaited
  obtain ⟨index, empty⟩ := List.mem_iff_getElem?.1 awaited
  simp only [isFinished, Bool.and_eq_true, List.isEmpty_iff] at finished
  simpa [finished] using (sound.awaited index).2 empty

end Sound

/-- The moves take up every task and come back from every one. -/
def Completes (workers : Nat) (task : α → β) (inputs : List α) (moves : List Move) : Prop :=
  ∃ last, run? workers task inputs (.start inputs.length) moves = some last ∧
    last.isFinished = true

/-- Moves that are possible so far lead to the end, in two moves for each task. -/
theorem exists_completes {moves : List Move} {pool : Pool β} (enough : 1 ≤ workers)
    (ran : run? workers task inputs (.start inputs.length) moves = some pool) :
    ∃ more, moves.length + more.length = 2 * inputs.length ∧
      Completes workers task inputs (moves ++ more) := by
  obtain ⟨more, last, later, finished⟩ := (Sound.start.run ran).exists_run enough
  have whole : run? workers task inputs (.start inputs.length) (moves ++ more) = some last := by
    rw [run?_append, ran, Option.bind_some, later]
  refine ⟨more, ?_, last, whole, finished⟩
  have counted := movesLeft_run whole
  simp only [isFinished, Bool.and_eq_true, List.isEmpty_iff] at finished
  simpa [movesLeft, start, finished] using counted

section Results

variable {ε γ : Type} {step : α → Except ε γ}

/-- What is handed back at any time is what the tasks give one after the other. -/
theorem gather_run {moves : List Move} {pool : Pool (Except ε γ)}
    (ran : run? workers step inputs (.start inputs.length) moves = some pool)
    {outcome : Except ε (List γ)} (handed : pool.slots.gather = some outcome) :
    outcome = inputs.mapM step :=
  have sound := Sound.start.run ran
  Slots.gather_eq sound.length sound.filled handed

theorem gather_completes {moves : List Move} (complete : Completes workers step inputs moves) :
    (run? workers step inputs (.start inputs.length) moves).bind (·.slots.gather) =
      some (inputs.mapM step) := by
  obtain ⟨last, ran, finished⟩ := complete
  obtain ⟨outcome, handed⟩ := Slots.gather_of_full ((Sound.start.run ran).full finished)
  rw [ran, Option.bind_some, handed, gather_run ran handed]

end Results

end Pool

section Build

variable [PatternReader] {document : Document} {profile : Profile} {workers : Nat}

/-- Sharing the territories can only give what one worker gives. -/
theorem buildShared_outcome (enough : 1 ≤ workers) {moves : List Move}
    {outcome : Except Fault Collection}
    (handed : buildShared document profile workers moves = some outcome) :
    outcome = (build document profile 1).result := by
  rw [build_result document profile (by decide)]
  rw [buildShared, if_neg (by omega)] at handed
  cases chosen : profile.filter with
  | error fault => simpa [chosen, eq_comm] using handed
  | ok filter =>
    simp only [chosen] at handed
    split at handed
    · simpa [compileInOrder_result, eq_comm] using handed
    · obtain ⟨pool, ran, gathered⟩ := Option.bind_eq_some_iff.1 handed
      exact Pool.gather_run ran gathered

theorem buildShared_completes {filter : Filter} (chosen : profile.filter = .ok filter)
    (enough : 1 ≤ workers) {moves : List Move}
    (complete : Pool.Completes workers (compileFiltered document.variant filter)
      document.territories moves) :
    buildShared document profile workers moves = some (build document profile 1).result := by
  rw [build_result document profile (by decide), buildShared, if_neg (by omega)]
  simp only [chosen, ok_bind, compileInOrder_result]
  split
  · rfl
  · exact Pool.gather_completes complete

/-- However many workers share the territories of a document, and in whatever order they take them
up and come back, the build comes to what one worker makes of it: the filtered record of every
territory in its place, or the fault of the first territory in the document that fails. Nothing else
is ever handed back, and whatever has happened so far, the work can be brought to its end. -/
theorem buildShared_sequential (document : Document) (profile : Profile) {workers : Nat}
    (enough : 1 ≤ workers) :
    (∀ moves outcome, buildShared document profile workers moves = some outcome →
      outcome = (build document profile 1).result) ∧
    (∀ fault, profile.filter = .error fault → ∀ moves,
      buildShared document profile workers moves = some (.error fault)) ∧
    ∀ filter, profile.filter = .ok filter →
      (∀ moves, Pool.Completes workers (compileFiltered document.variant filter)
          document.territories moves →
        buildShared document profile workers moves = some (build document profile 1).result) ∧
      (∀ moves pool, Pool.run? workers (compileFiltered document.variant filter)
          document.territories (.start document.territories.length) moves = some pool →
        ∃ more, moves.length + more.length = 2 * document.territories.length ∧
          Pool.Completes workers (compileFiltered document.variant filter)
            document.territories (moves ++ more)) ∧
      ((∃ collection, (build document profile 1).result = .ok collection ∧
          List.Forall₂ (fun element territory => ∃ compiled,
              compileElement document.variant element = .ok compiled ∧
                territory = filter.apply compiled)
            document.territories collection) ∨
        ∃ before element after fault, document.territories = before ++ element :: after ∧
          (∀ earlier ∈ before, ∃ compiled,
            compileElement document.variant earlier = .ok compiled) ∧
          compileElement document.variant element = .error fault ∧
          (build document profile 1).result = .error fault) := by
  refine ⟨fun moves outcome => buildShared_outcome enough, fun fault refused moves => ?_,
    fun filter chosen => ⟨fun moves => buildShared_completes chosen enough,
      fun moves pool => Pool.exists_completes enough, ?_⟩⟩
  · rw [buildShared, if_neg (by omega), refused]
  · cases result : (build document profile 1).result with
    | ok collection => exact .inl ⟨collection, rfl, (build_ok chosen (by decide)).1 result⟩
    | error fault =>
      obtain ⟨before, element, after, place, fine, fails⟩ :=
        (build_error chosen (by decide)).1 result
      exact .inr ⟨before, element, after, fault, place, fine, fails, rfl⟩

end Build

open scoped Standard

/-- Three territories, of which the last two have no calling code. -/
def lastTwoUncoded : Document :=
  .ofElement ⟨"territories", [], [.element "territory" [("countryCode", "41")] [],
    .element "territory" [("id", "LI")] [], .element "territory" [("id", "AT")] []]⟩

/-- The last territory is the first to fail, and the first one is the last to be done. -/
def lastFirst : List Move := [.take 2, .take 0, .finish 2, .take 1, .finish 1, .finish 0]

theorem buildShared_lastFirst :
    1 ≤ 2 ∧ Profile.filter {} = .ok {} ∧
      Pool.Completes 2 (compileFiltered lastTwoUncoded.variant {}) lastTwoUncoded.territories
        lastFirst ∧
      buildShared lastTwoUncoded {} 2 lastFirst = some (build lastTwoUncoded {} 1).result := by
  have complete : Pool.Completes 2 (compileFiltered lastTwoUncoded.variant {})
      lastTwoUncoded.territories lastFirst := ⟨_, rfl, rfl⟩
  exact ⟨by decide, rfl, complete,
    ((buildShared_sequential lastTwoUncoded {} (by decide)).2.2 {} rfl).1 lastFirst complete⟩

end NumberingPlan
