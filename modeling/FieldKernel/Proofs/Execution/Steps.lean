import FieldKernel.Proofs.Execution.Evaluation
import FieldKernel.Proofs.Execution.Triples
import FieldKernel.Proofs.Storage.Requests
import FieldKernel.Proofs.Written

/-!
# The steps of a run

A run comes to operations one after the other, those inside conditionals and
loops included.  A storage that a run is made on ends up as the stores among
the steps leave it.  If the run fails, its last step is what fails: every store
before that is completed, and the step itself changes nothing.
-/

namespace FieldKernel

/-- What a run comes to: an operation, or a round of a loop, which sets the
variables of the loop. -/
inductive Task where
  | operation (operation : Op)
  | round (values : List (Nat × Int))

/-- What a run comes to, with the run as it is then. -/
structure Step where
  task : Task
  run : Run

namespace Execute

def setCounters (values : List (Nat × Int)) : Execute Unit :=
  values.forM fun (var, value) => setCounter var value

/-- The values that the variables of a loop have for an index. -/
def counters (vars index : List Nat) : List (Nat × Int) :=
  (vars.zip index).map fun (var, position) => (var, ↑position)

/-- Whether the value of a node counts as true. -/
def condition (context : RunContext) (run : Run) (id : Nat) : Except Error Bool := do
  (← (node context run id).run' ∅).isTrue

/-- The bounds of a loop over a range. -/
def bounds (context : RunContext) (run : Run) (first last : Nat) : Except Error (Int × Int) := do
  let first ← (← (node context run first).run' ∅).index
  let last ← (← (node context run last).run' ∅).index
  return (first, last)

/-- The bounds of a loop can be written. -/
theorem isShort_bounds {context : RunContext} {run : Run} {first last : Nat} {least most : Int}
    (bounded : bounds context run first last = .ok (least, most)) : Text.IsShort least := by
  simp only [bounds, bind, Except.bind] at bounded
  split at bounded
  · cases bounded
  split at bounded
  · cases bounded
  next computed =>
  split at bounded
  · cases bounded
  split at bounded
  · cases bounded
  cases bounded
  exact Box.isShort_index computed

/-- The position and the value that an operation stores. -/
def target (context : RunContext) (run : Run) (indices : List Nat) (value : Nat) :
    Except Error (List Int × Box) :=
  StateT.run' (do
    let index ← positions context run indices
    return (index, ← node context run value)) ∅

/-- The steps that follow on a result. -/
def succeeding {α : Type} (outcome : Except Error α) (next : α → List Step) : List Step :=
  match outcome with
  | .ok result => next result
  | .error _ => []

/-- The steps that follow on a part of a run. -/
def following (action : Execute Unit) (next : Run → List Step) (run : Run) : List Step :=
  match action.run.run run with
  | (.ok _, later) => next later
  | (.error _, _) => []

/-- The steps of one round of a loop. -/
def roundSteps (values : List (Nat × Int)) (body : Run → List Step) (run : Run) : List Step :=
  ⟨.round values, run⟩ :: following (setCounters values) body run

def iterateSteps (action : Int → Execute Unit) (steps : Int → Run → List Step) :
    Nat → Int → Run → List Step
  | 0, _, _ => []
  | count + 1, value, run =>
    steps value run ++ following (action value) (iterateSteps action steps count (value + 1)) run

def forSteps {α : Type} (action : α → Execute Unit) (steps : α → Run → List Step) :
    List α → Run → List Step
  | [], _ => []
  | first :: rest, run =>
    steps first run ++ following (action first) (forSteps action steps rest) run

mutual

/-- What is come to by an operation, the operation itself first. -/
def opSteps (context : RunContext) : Op → Run → List Step
  | .branch node onTrue onFalse, run =>
    ⟨.operation (.branch node onTrue onFalse), run⟩ ::
      succeeding (condition context run node) fun isTrue =>
        if isTrue then opsSteps context onTrue run else opsSteps context onFalse run
  | .rangeLoop var first last body schedule, run =>
    ⟨.operation (.rangeLoop var first last body schedule), run⟩ ::
      succeeding (bounds context run first last) fun (first, last) =>
        iterateSteps
          (fun value => do
            setCounter var value
            ops context body)
          (fun value => roundSteps [(var, value)] (opsSteps context body))
          (last - first).toNat first run
  | .elementLoop vars leaf body schedule, run =>
    ⟨.operation (.elementLoop vars leaf body schedule), run⟩ ::
      succeeding (run.storage.activeIndices leaf) fun indices =>
        forSteps
          (fun (index : List Nat) => do
            (vars.zip index).forM fun (var, position) => setCounter var position
            ops context body)
          (fun index => roundSteps (counters vars index) (opsSteps context body)) indices run
  | .alloca var, run => [⟨.operation (.alloca var), run⟩]
  | .assign var value, run => [⟨.operation (.assign var value), run⟩]
  | .load leaf indices, run => [⟨.operation (.load leaf indices), run⟩]
  | .store leaf indices value, run => [⟨.operation (.store leaf indices value), run⟩]
  | .print value label, run => [⟨.operation (.print value label), run⟩]

/-- What operations come to that are executed one after the other. -/
def opsSteps (context : RunContext) : List Op → Run → List Step
  | [], _ => []
  | first :: rest, run =>
    opSteps context first run ++ following (op context first) (opsSteps context rest) run

end

end Execute

/-- What is done for a task. -/
def Task.attempt (context : RunContext) : Task → Execute Unit
  | .operation op => Execute.op context op
  | .round values => Execute.setCounters values

/-- What a step asks the storage for, apart from the steps inside it. -/
def Step.request? (context : RunContext) (step : Step) : Option Request :=
  match step.task with
  | .operation (.store leaf indices value) =>
    match Execute.target context step.run indices value with
    | .ok (index, value) => some (.write leaf index value.stored)
    | .error _ => none
  | _ => none

/-- Steps lead from one state of a storage to another: all stores among them
are completed. -/
inductive Performed (context : RunContext) : Storage → List Step → Storage → Prop where
  | nil (storage : Storage) : Performed context storage [] storage
  | quiet {storage final : Storage} {step : Step} {rest : List Step} :
      step.run.storage = storage → step.request? context = none →
      Performed context storage rest final → Performed context storage (step :: rest) final
  | store {storage final : Storage} {step : Step} {rest : List Step} {leaf : Nat}
      {position : List Int} {convert : DataType → Except Error Scalar} :
      step.run.storage = storage → step.request? context = some (.write leaf position convert) →
      (storage.write leaf position convert).1 = .ok () →
      Performed context (storage.write leaf position convert).2 rest final →
      Performed context storage (step :: rest) final

/-- How steps end.  If the last one fails, then all others are done with, and
it leaves the storage as they have left it. -/
inductive Ends (context : RunContext) (storage : Storage) :
    List Step → Except Error Unit → Storage → Prop where
  | completed {steps : List Step} {final : Storage} :
      Performed context storage steps final → Ends context storage steps (.ok ()) final
  | failed {done : List Step} {failing : Step} {error : Error} {left : Run} :
      Performed context storage done left.storage → failing.run.storage = left.storage →
      (failing.task.attempt context).run.run failing.run = (.error error, left) →
      Ends context storage (done ++ [failing]) (.error error) left.storage

section Storages

variable {context : RunContext} {storage middle final : Storage} {steps later : List Step}

theorem Performed.append (first : Performed context storage steps middle)
    (second : Performed context middle later final) :
    Performed context storage (steps ++ later) final := by
  induction first with
  | nil => exact second
  | quiet begins quiet _ hypothesis => exact .quiet begins quiet (hypothesis second)
  | store begins stores completed _ hypothesis =>
      exact .store begins stores completed (hypothesis second)

theorem Ends.only {failing : Step} {error : Error} {left : Run}
    (same : failing.run.storage = left.storage)
    (fails : (failing.task.attempt context).run.run failing.run = (.error error, left)) :
    Ends context left.storage [failing] (.error error) left.storage :=
  .failed (.nil _) same fails

theorem Ends.performed {outcome : Except Error Unit}
    (ends : Ends context storage steps outcome final) (isOk : outcome = .ok ()) :
    Performed context storage steps final := by
  cases ends with
  | completed performed => exact performed
  | failed => cases isOk

theorem Ends.after (first : Performed context storage steps middle)
    {outcome : Except Error Unit} (second : Ends context middle later outcome final) :
    Ends context storage (steps ++ later) outcome final := by
  cases second with
  | completed performed => exact .completed (first.append performed)
  | failed performed same fails =>
      rw [← List.append_assoc]
      exact .failed (first.append performed) same fails

/-- Steps change the storage as what they ask it for does. -/
theorem Performed.serveAll (performed : Performed context storage steps final) :
    final = storage.serveAll (steps.filterMap (Step.request? context)) := by
  induction performed with
  | nil => rfl
  | quiet _ quiet _ hypothesis => rw [List.filterMap_cons_none quiet, hypothesis]
  | store _ stores _ _ hypothesis =>
      rw [List.filterMap_cons_some stores, hypothesis]
      rfl

theorem Performed.keepsPointers (performed : Performed context storage steps final)
    (keeps : storage.KeepsPointers) : final.KeepsPointers := by
  rw [performed.serveAll]
  exact (Storage.alike_serveAll _).keepsPointers keeps

end Storages

namespace Execute

variable {context : RunContext}

/-- A part of a run keeps up what is said about the storage, also if it
fails. -/
def Keeps {α : Type} (holds : Storage → Prop) (action : Execute α) : Prop :=
  Ensures (fun run => holds run.storage) action (fun _ run => holds run.storage)
    (fun _ run => holds run.storage)

variable {holds : Storage → Prop}

section Rules

variable {α β : Type}

theorem Keeps.bind {action : Execute α} {next : α → Execute β} (first : Keeps holds action)
    (second : ∀ result, Keeps holds (next result)) : Keeps holds (action >>= next) :=
  Ensures.bind first second

theorem Keeps.ofExcept (outcome : Except Error α) : Keeps holds (ofExcept outcome) := by
  intro run now
  cases outcome with
  | error error => exact now
  | ok result => exact now

theorem Keeps.get {next : Run → Execute α} (after : ∀ run, Keeps holds (next run)) :
    Keeps holds (get >>= next) :=
  Ensures.get fun run now =>
    (after run).weaken (fun _ same => same ▸ now) fun _ _ => id

theorem Keeps.setVariable (id : Nat) (value : Box) : Keeps holds (setVariable id value) :=
  Ensures.modify fun _ now => now

theorem Keeps.setCounter (id : Nat) (value : Int) : Keeps holds (setCounter id value) :=
  (Keeps.ofExcept _).bind fun _ => .setVariable id _

end Rules

theorem get_run {α : Type} (next : Run → Execute α) (run : Run) :
    (get >>= next).run.run run = (next run).run.run run :=
  rfl

theorem setCounters_singleton (var : Nat) (value : Int) :
    setCounters [(var, value)] = setCounter var value := by
  simp [setCounters, List.forM_cons]

theorem setCounters_counters (vars index : List Nat) :
    setCounters (counters vars index) =
      (vars.zip index).forM fun (var, position) => setCounter var position := by
  rw [setCounters, counters, List.forM_eq_forM, List.forM_eq_forM, List.forM_map]

/-- A relation between parts of a run and steps that holds of parts that follow
one another if it holds of each. -/
structure Stepwise (relation : Execute Unit → (Run → List Step) → Prop) : Prop where
  nothing : relation (pure ()) fun _ => []
  bind {first second : Execute Unit} {steps later : Run → List Step} (one : relation first steps)
    (two : relation second later) :
    relation (first >>= fun _ => second) fun run => steps run ++ following first later run

namespace Stepwise

variable {relation : Execute Unit → (Run → List Step) → Prop} (stepwise : Stepwise relation)

include stepwise

theorem iterate {action : Int → Execute Unit} {steps : Int → Run → List Step}
    (round : ∀ value, relation (action value) (steps value)) (count : Nat) (value : Int) :
    relation (Execute.iterate action count value) (iterateSteps action steps count value) := by
  induction count generalizing value with
  | zero => exact stepwise.nothing
  | succ count hypothesis => exact stepwise.bind (round value) (hypothesis (value + 1))

theorem forM {α : Type} {action : α → Execute Unit} {steps : α → Run → List Step}
    (round : ∀ item, relation (action item) (steps item)) (items : List α) :
    relation (items.forM action) (forSteps action steps items) := by
  induction items with
  | nil => exact stepwise.nothing
  | cons first rest hypothesis => exact stepwise.bind (round first) hypothesis

/-- A round sets the variables of the loop and goes on with the body. -/
theorem round {body : Execute Unit} {steps : Run → List Step} {values : List (Nat × Int)}
    (sets : relation (setCounters values) fun run => [⟨.round values, run⟩])
    (goesOn : relation body steps) :
    relation (setCounters values >>= fun _ => body) (roundSteps values steps) :=
  stepwise.bind sets goesOn

end Stepwise

section Heads

variable (context : RunContext) (run : Run)

/-- What an operation computes first decides what it goes on with. -/
theorem branch_run (node : Nat) (onTrue onFalse : List Op) :
    (op context (.branch node onTrue onFalse)).run.run run =
      (ofExcept (condition context run node) >>= fun isTrue =>
        if isTrue then ops context onTrue else ops context onFalse).run.run run := by
  rw [op, get_run]
  simp only [condition, evaluate, ofExcept_bind, bind_assoc]

theorem rangeLoop_run (var first last : Nat) (body : List Op)
    (schedule : List (HintKind × HintValue)) :
    (op context (.rangeLoop var first last body schedule)).run.run run =
      (ofExcept (bounds context run first last) >>= fun range =>
        iterate (fun value => do
          setCounter var value
          ops context body) (range.2 - range.1).toNat range.1).run.run run := by
  rw [op, get_run]
  simp only [bounds, evaluate, ofExcept_bind, bind_assoc, pure, Except.pure, ofExcept_ok]
  rfl

theorem elementLoop_run (vars : List Nat) (leaf : Nat) (body : List Op)
    (schedule : List (HintKind × HintValue)) :
    (op context (.elementLoop vars leaf body schedule)).run.run run =
      (ofExcept (run.storage.activeIndices leaf) >>= fun indices =>
        indices.forM fun (index : List Nat) => do
          (vars.zip index).forM fun (var, position) => setCounter var position
          ops context body).run.run run := by
  rw [op, get_run]

theorem store_run (leaf : Nat) (indices : List Nat) (value : Nat) :
    (op context (.store leaf indices value)).run.run run =
      (ofExcept (target context run indices value) >>= fun found =>
        write leaf found.1 found.2).run.run run := by
  rw [op, get_run]
  rfl

end Heads

/-- Listed steps are those that a part of a run takes, on a storage that keeps
the pointers above its leaves. -/
def Takes (context : RunContext) (action : Execute Unit) (steps : Run → List Step) : Prop :=
  ∀ run, run.storage.KeepsPointers → Ends context run.storage (steps run) (action.run.run run).1
    (action.run.run run).2.storage

namespace Takes

theorem bind {first second : Execute Unit} {steps later : Run → List Step}
    (one : Takes context first steps) (two : Takes context second later) :
    Takes context (first >>= fun _ => second)
      (fun run => steps run ++ following first later run) := by
  intro run keeps
  have taken := one run keeps
  rw [run_run_bind]
  dsimp only [following]
  revert taken
  rcases first.run.run run with ⟨error | ⟨⟩, middle⟩
  · intro taken
    rw [List.append_nil]
    exact taken
  · intro taken
    have performed := taken.performed rfl
    exact (two middle (performed.keepsPointers keeps)).after performed

/-- What is computed first is part of the step that the computation is for. -/
theorem computing (task : Task) {α : Type} {outcome : Run → Except Error α}
    {next : α → Execute Unit} {steps : α → Run → List Step}
    (quiet : ∀ run, Step.request? context ⟨task, run⟩ = none)
    (runs : ∀ run, (task.attempt context).run.run run =
      (ofExcept (outcome run) >>= next).run.run run)
    (takes : ∀ result, Takes context (next result) (steps result)) :
    Takes context (task.attempt context)
      (fun run => ⟨task, run⟩ :: succeeding (outcome run) fun result => steps result run) := by
  intro run keeps
  have unfolded := runs run
  cases computed : outcome run with
  | error error =>
      rw [computed] at unfolded
      have fails : (task.attempt context).run.run run = (.error error, run) := unfolded
      rw [fails]
      simp only [computed, succeeding]
      exact .only rfl fails
  | ok result =>
      rw [computed] at unfolded
      have goes : (task.attempt context).run.run run = (next result).run.run run := unfolded
      rw [goes]
      have first : Performed context run.storage [⟨task, run⟩] run.storage :=
        .quiet rfl (quiet run) (.nil _)
      simp only [computed, succeeding]
      exact (takes result run keeps).after first

/-- A step that leaves the storage alone. -/
theorem single (task : Task) (quiet : ∀ run, Step.request? context ⟨task, run⟩ = none)
    (leaves : ∀ storage, Keeps (· = storage) (task.attempt context)) :
    Takes context (task.attempt context) (fun run => [⟨task, run⟩]) := by
  intro run _
  have same := leaves run.storage run rfl
  revert same
  cases ended : (task.attempt context).run.run run with
  | mk outcome later =>
      cases outcome with
      | error error =>
          intro same
          rw [← (same : later.storage = run.storage)]
          exact .only same.symm ended
      | ok result =>
          intro same
          exact .completed (.quiet rfl (quiet run) (same ▸ .nil _))

theorem of_eq {action : Execute Unit} {steps other : Run → List Step}
    (takes : Takes context action steps) (listed : ∀ run, other run = steps run) :
    Takes context action other := by
  rw [show other = steps from funext listed]
  exact takes

theorem nothing : Takes context (pure ()) fun _ => [] :=
  fun _ _ => .completed (.nil _)

theorem stepwise : Stepwise (Takes context) :=
  ⟨nothing, bind⟩

theorem sets (values : List (Nat × Int)) :
    Takes context (setCounters values) fun run => [⟨.round values, run⟩] :=
  single (.round values) (fun _ => rfl) fun storage => by
    refine Ensures.forM values fun (var, value) _ => ?_
    exact (Keeps.setCounter var value : Keeps (· = storage) _)

/-- A store is completed, or it changes nothing. -/
theorem store (leaf : Nat) (indices : List Nat) (value : Nat) :
    Takes context (op context (.store leaf indices value))
      (fun run => [⟨.operation (.store leaf indices value), run⟩]) := by
  intro run keeps
  have runs := store_run context run leaf indices value
  cases found : target context run indices value with
  | error error =>
      rw [found] at runs
      have fails : (op context (.store leaf indices value)).run.run run = (.error error, run) := runs
      rw [fails]
      exact .only rfl fails
  | ok result =>
      obtain ⟨position, box⟩ := result
      rw [found] at runs
      have writes : (op context (.store leaf indices value)).run.run run =
          ((run.storage.write leaf position box.stored).1,
            { run with storage := (run.storage.write leaf position box.stored).2 }) := runs
      rw [writes]
      cases ended : (run.storage.write leaf position box.stored).1 with
      | error error =>
          have same := (keeps.unchanged ended).2
          rw [ended, same] at writes
          rw [same]
          exact .only rfl writes
      | ok result =>
          have stores : Step.request? context ⟨.operation (.store leaf indices value), run⟩ =
              some (.write leaf position box.stored) := by
            simp only [Step.request?, found]
          exact .completed (.store rfl stores ended (.nil _))

end Takes

mutual

theorem op_takes (context : RunContext) (operation : Op) :
    Takes context (op context operation) (opSteps context operation) := by
  cases operation with
  | alloca var =>
      refine (Takes.single (.operation (.alloca var)) (fun _ => rfl) fun storage => ?_).of_eq
        fun run => by rw [opSteps]
      rw [Task.attempt, op]
      split
      · exact Ensures.pure fun _ => id
      · exact (Keeps.ofExcept _).bind fun _ => .setVariable var _
  | assign var value =>
      refine (Takes.single (.operation (.assign var value)) (fun _ => rfl) fun storage => ?_).of_eq
        fun run => by rw [opSteps]
      rw [Task.attempt, op]
      exact .get fun run => (Keeps.ofExcept _).bind fun _ => .setVariable var _
  | load leaf indices =>
      refine (Takes.single (.operation (.load leaf indices)) (fun _ => rfl) fun storage => ?_).of_eq
        fun run => by rw [opSteps]
      rw [Task.attempt, op]
      exact .get fun run => (Keeps.ofExcept _).bind fun _ => (Keeps.ofExcept _).bind fun _ =>
        Ensures.pure fun _ => id
  | print value label =>
      refine (Takes.single (.operation (.print value label)) (fun _ => rfl) fun storage => ?_).of_eq
        fun run => by rw [opSteps]
      rw [Task.attempt, op]
      exact .get fun run => (Keeps.ofExcept _).bind fun _ => (Keeps.ofExcept _).bind fun _ =>
        Ensures.modify fun _ now => now
  | store leaf indices value =>
      exact (Takes.store leaf indices value).of_eq fun run => by rw [opSteps]
  | branch node onTrue onFalse =>
      have branches (isTrue : Bool) :
          Takes context (if isTrue then ops context onTrue else ops context onFalse)
            fun run => if isTrue then opsSteps context onTrue run
              else opsSteps context onFalse run := by
        cases isTrue with
        | true => exact ops_takes context onTrue
        | false => exact ops_takes context onFalse
      exact (Takes.computing (.operation (.branch node onTrue onFalse)) (fun _ => rfl)
        (fun run => branch_run context run node onTrue onFalse) branches).of_eq
          fun run => by rw [opSteps]
  | rangeLoop var first last body schedule =>
      have round (value : Int) :=
        Takes.stepwise.round (Takes.sets [(var, value)]) (ops_takes context body)
      simp only [setCounters_singleton] at round
      have rounds (range : Int × Int) :=
        Takes.stepwise.iterate round (range.2 - range.1).toNat range.1
      exact (Takes.computing (.operation (.rangeLoop var first last body schedule)) (fun _ => rfl)
        (fun run => rangeLoop_run context run var first last body schedule) rounds).of_eq
          fun run => by rw [opSteps]
  | elementLoop vars leaf body schedule =>
      have round (index : List Nat) :=
        Takes.stepwise.round (Takes.sets (counters vars index)) (ops_takes context body)
      simp only [setCounters_counters] at round
      exact (Takes.computing (.operation (.elementLoop vars leaf body schedule)) (fun _ => rfl)
        (fun run => elementLoop_run context run vars leaf body schedule)
        (Takes.stepwise.forM round)).of_eq fun run => by rw [opSteps]

theorem ops_takes (context : RunContext) (operations : List Op) :
    Takes context (ops context operations) (opsSteps context operations) := by
  cases operations with
  | nil =>
      rw [ops]
      exact Takes.nothing.of_eq fun run => by rw [opsSteps]
  | cons first rest =>
      rw [ops]
      exact ((op_takes context first).bind (ops_takes context rest)).of_eq
        fun run => by rw [opsSteps]

end

end Execute

namespace KernelIR

variable (ir : KernelIR) (objects : Objects) {storage : Storage} (hostArgs : List HostValue)

/-- What does not change during a run of a kernel. -/
def contextFor (rendering : Rendering) (args : List Box) : RunContext :=
  ⟨ir.nodes, ir.varTypes, args, rendering⟩

/-- The steps of a run of a kernel. -/
def steps (rendering : Rendering) (storage : Storage) (args : List Box) : List Step :=
  Execute.opsSteps (ir.contextFor rendering args) ir.body ⟨storage, ∅, #[]⟩

/-- A call is refused, with nothing done, or takes the steps of a run. -/
theorem run_ends (keeps : storage.KeepsPointers) :
    (∃ error, (ir.checkCall storage hostArgs).run objects = .error error ∧
        ir.run objects storage hostArgs = ⟨.error error, storage, #[]⟩) ∨
      ∃ args, (ir.checkCall storage hostArgs).run objects = .ok args ∧
        Ends (ir.contextFor objects.rendering args) storage
          (ir.steps objects.rendering storage args)
          (ir.run objects storage hostArgs).outcome (ir.run objects storage hostArgs).storage := by
  cases checked : (ir.checkCall storage hostArgs).run objects with
  | error error =>
      left
      exact ⟨error, rfl, by rw [run, checked]⟩
  | ok args =>
      right
      refine ⟨args, rfl, ?_⟩
      have taken := Execute.ops_takes (ir.contextFor objects.rendering args) ir.body
        ⟨storage, ∅, #[]⟩ keeps
      rw [run, checked]
      exact taken

end KernelIR

end FieldKernel
