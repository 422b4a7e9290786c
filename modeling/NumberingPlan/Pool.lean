import NumberingPlan.Collection

/-! A pool of workers that share the territories of a build. A free worker takes any task that still
waits and comes back with its result whenever it likes. The results are handed back in the order of
the tasks, up to the first failure, and nobody waits for what lies behind that. -/

namespace NumberingPlan

abbrev Slots (α : Type) := List (Option α)

/-- The results in the order of the tasks, or the first failure; nothing while one is awaited. -/
def Slots.gather {ε α : Type} : Slots (Except ε α) → Option (Except ε (List α))
  | [] => some (.ok [])
  | none :: _ => none
  | some (.error fault) :: _ => some (.error fault)
  | some (.ok value) :: rest => (gather rest).map (·.map (value :: ·))

inductive Move where
  | take (index : Nat)
  | finish (index : Nat)
  deriving DecidableEq, Repr

/-- The tasks that wait, those that a worker has, and the results that have come in. -/
structure Pool (β : Type) where
  waiting : List Nat
  running : List Nat
  slots : Slots β
  deriving DecidableEq, Repr

namespace Pool

variable {α β : Type}

def start (tasks : Nat) : Pool β := ⟨List.range tasks, [], List.replicate tasks none⟩

def isFinished (pool : Pool β) : Bool := pool.waiting.isEmpty && pool.running.isEmpty

def movesLeft (pool : Pool β) : Nat := 2 * pool.waiting.length + pool.running.length

section Run

variable (workers : Nat) (task : α → β) (inputs : List α)

/-- The pool after a move, if it is possible: no more tasks run at a time than there are workers,
and a result goes into the slot of its own task. -/
def step? (pool : Pool β) : Move → Option (Pool β)
  | .take index =>
    if index ∈ pool.waiting ∧ pool.running.length < workers then
      some { pool with
        waiting := pool.waiting.erase index
        running := index :: pool.running }
    else none
  | .finish index =>
    if index ∈ pool.running then
      inputs[index]?.map fun input => { pool with
        running := pool.running.erase index
        slots := pool.slots.set index (some (task input)) }
    else none

def run? : Pool β → List Move → Option (Pool β)
  | pool, [] => some pool
  | pool, move :: rest => (pool.step? workers task inputs move).bind (run? · rest)

end Run

end Pool

/-- What a build whose territories are shared among workers has come to after some moves. Nothing
has come of it while a result is awaited, and nothing comes of moves that are impossible. One worker
or fewer than two territories need no pool. -/
def buildShared [PatternReader] (document : Document) (profile : Profile) (workers : Nat)
    (moves : List Move) :
    Option (Except Fault Collection) :=
  if workers < 1 then some (.error (.limit .noWorkers))
  else
    match profile.filter with
    | .error fault => some (.error fault)
    | .ok filter =>
      let territories := document.territories
      if workers = 1 ∨ territories.length < 2 then
        some (compileInOrder document.variant filter territories).2
      else
        (Pool.run? workers (compileFiltered document.variant filter) territories
          (.start territories.length) moves).bind (·.slots.gather)

end NumberingPlan
