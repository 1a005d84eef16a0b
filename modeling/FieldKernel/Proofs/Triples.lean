import Mathlib
import FieldKernel.Objects

/-!
# What attempts ensure

Something that works on a state and may fail is described by three conditions:
one on the states it begins in, one on its result and the state it ends in, and
one on the error it fails with and the state that is left behind then.
-/

namespace FieldKernel

/-- An outcome that passes a check is a result. -/
theorem exists_ok_of_any {α : Type} {outcome : Except Error α} {check : α → Bool}
    (holds : outcome.toOption.any check = true) :
    ∃ result, outcome = .ok result ∧ check result = true := by
  cases outcome with
  | error error => cases holds
  | ok result => exact ⟨result, rfl, holds⟩

/-- An outcome that is no error is a result. -/
theorem exists_ok {ε α : Type} {outcome : Except ε α} (isOk : outcome.isOk = true) :
    ∃ result, outcome = .ok result := by
  cases outcome with
  | error error => cases isOk
  | ok result => exact ⟨result, rfl⟩

/-- Attempts that are the same for each member of a row are the same for the row. -/
theorem mapM_eq_of_forall {ε α β : Type} {one other : α → Except ε β} (items : List α)
    (each : ∀ item ∈ items, one item = other item) : items.mapM one = items.mapM other := by
  induction items with
  | nil => rfl
  | cons first rest hypothesis =>
      rw [List.mapM_cons, List.mapM_cons, each first (by simp),
        hypothesis fun item member => each item (by simp [member])]

theorem Ask.bind_eq_ok {α β : Type} {objects : Objects} {question : Ask α} {next : α → Ask β}
    {result : β} :
    (question >>= next) objects = .ok result ↔
      ∃ answer, question objects = .ok answer ∧ next answer objects = .ok result := by
  have taken : (question >>= next) objects = question objects >>= fun answer =>
    next answer objects := rfl
  rw [taken]
  cases question objects with
  | error error => simp [bind, Except.bind]
  | ok answer => simp [bind, Except.bind]

variable {σ α β : Type} {before : σ → Prop} {after : α → σ → Prop} {failed : Error → σ → Prop}

/-- From states of a kind an attempt ends as described. -/
def Ensures (before : σ → Prop) (attempt : ExceptT Error (StateM σ) α)
    (after : α → σ → Prop) (failed : Error → σ → Prop) : Prop :=
  ∀ state, before state →
    match attempt.run.run state with
    | (.ok result, final) => after result final
    | (.error error, final) => failed error final

/-- What follows on an attempt begins in the state that the attempt ends in, if
it succeeds. -/
theorem run_run_bind (attempt : ExceptT Error (StateM σ) α) (next : α → ExceptT Error (StateM σ) β)
    (state : σ) :
    (attempt >>= next).run.run state =
      match attempt.run.run state with
      | (.ok result, middle) => (next result).run.run middle
      | (.error error, middle) => (.error error, middle) := by
  simp only [ExceptT.run_bind, StateT.run_bind]
  rcases attempt.run.run state with ⟨error | result, middle⟩ <;> rfl

theorem run_run_map (change : α → β) (attempt : ExceptT Error (StateM σ) α) (state : σ) :
    (change <$> attempt).run.run state =
      ((attempt.run.run state).1.map change, (attempt.run.run state).2) := by
  rw [map_eq_pure_bind, run_run_bind]
  rcases attempt.run.run state with ⟨error | result, final⟩ <;> rfl

/-- What follows on a look at the state is done in it. -/
theorem run_run_get_bind (next : σ → ExceptT Error (StateM σ) α) (state : σ) :
    (get >>= next).run.run state = (next state).run.run state :=
  rfl

namespace Ensures

theorem weaken {attempt : ExceptT Error (StateM σ) α} {stronger : σ → Prop}
    {weaker : α → σ → Prop} (ensures : Ensures before attempt after failed)
    (begins : ∀ state, stronger state → before state)
    (ends : ∀ result state, after result state → weaker result state) :
    Ensures stronger attempt weaker failed := by
  intro state starts
  have meets := ensures state (begins state starts)
  revert meets
  rcases attempt.run.run state with ⟨error | result, final⟩
  · exact id
  · exact ends result final

/-- Less is said about failures. -/
theorem failing {attempt : ExceptT Error (StateM σ) α} {other : Error → σ → Prop}
    (ensures : Ensures before attempt after failed)
    (fails : ∀ error state, failed error state → other error state) :
    Ensures before attempt after other := by
  intro state starts
  have meets := ensures state starts
  revert meets
  rcases attempt.run.run state with ⟨error | result, final⟩
  · exact fails error final
  · exact id

theorem pure {result : α} (ends : ∀ state, before state → after result state) :
    Ensures before (pure result) after failed :=
  ends

theorem throw {error : Error} (fails : ∀ state, before state → failed error state) :
    Ensures before (throw error) after failed :=
  fails

theorem bind {attempt : ExceptT Error (StateM σ) α} {next : α → ExceptT Error (StateM σ) β}
    {later : β → σ → Prop} (first : Ensures before attempt after failed)
    (second : ∀ result, Ensures (after result) (next result) later failed) :
    Ensures before (attempt >>= next) later failed := by
  intro state starts
  have meets := first state starts
  rw [run_run_bind]
  revert meets
  rcases attempt.run.run state with ⟨error | result, middle⟩
  · exact id
  · exact second result middle

/-- What follows on a look at the state is described from all states of a kind,
for one of which it is done. -/
theorem look {next : σ → ExceptT Error (StateM σ) α}
    (ensures : ∀ state, before state → Ensures before (next state) after failed) :
    Ensures before (get >>= next) after failed :=
  fun state starts => ensures state starts state starts

/-- It may also be described from that state on. -/
theorem get {next : σ → ExceptT Error (StateM σ) α}
    (ensures : ∀ state, before state → Ensures (· = state) (next state) after failed) :
    Ensures before (get >>= next) after failed :=
  fun state starts => ensures state starts state rfl

theorem modify {change : σ → σ} {after : Unit → σ → Prop}
    (ends : ∀ state, before state → after () (change state)) :
    Ensures before (modify change) after failed :=
  ends

/-- What the round for every item keeps up, the loop over a row keeps up. -/
theorem forM {attempt : α → ExceptT Error (StateM σ) Unit} (items : List α)
    (round : ∀ item ∈ items, Ensures before (attempt item) (fun _ => before) failed) :
    Ensures before (items.forM attempt) (fun _ => before) failed := by
  induction items with
  | nil => exact pure fun _ => id
  | cons first rest hypothesis =>
      exact (round first (by simp)).bind fun _ =>
        hypothesis fun item member => round item (by simp [member])

end Ensures

end FieldKernel
