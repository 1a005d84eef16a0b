import FieldKernel.Execution.Run
import FieldKernel.Proofs.Triples

/-!
# What parts of a run ensure

Operations compute on the nodes of their kernel, write to the storage and run
other operations in loops; each of these has a rule.
-/

namespace FieldKernel

/-- What is stored of a value among elements of a type. -/
def Box.stored (value : Box) (type : DataType) : Except Error Scalar := do
  (← value.convert type).element

namespace Ensures

variable {α β : Type} {before : Run → Prop} {failed : Error → Run → Prop}

/-- What follows on a computation is described for its result. -/
theorem compute {outcome : Except Error α} {next : α → Execute β} {later : β → Run → Prop}
    (fails : ∀ error, outcome = .error error → ∀ run, before run → failed error run)
    (ensures : ∀ result, outcome = .ok result → Ensures before (next result) later failed) :
    Ensures before (Execute.ofExcept outcome >>= next) later failed := by
  cases outcome with
  | error error => exact fails error rfl
  | ok result => exact ensures result rfl

theorem write {leaf : Nat} {index : List Int} {value : Box} {after : Unit → Run → Prop}
    (fails : ∀ run, before run → ∀ error,
      (run.storage.write leaf index value.stored).1 = .error error →
        failed error { run with storage := (run.storage.write leaf index value.stored).2 })
    (ends : ∀ run, before run → (run.storage.write leaf index value.stored).1 = .ok () →
      after () { run with storage := (run.storage.write leaf index value.stored).2 }) :
    Ensures before (Execute.write leaf index value) after failed := by
  intro run starts
  have outcome : (Execute.write leaf index value).run.run run =
      ((run.storage.write leaf index value.stored).1,
        { run with storage := (run.storage.write leaf index value.stored).2 }) := rfl
  rw [outcome]
  cases result : (run.storage.write leaf index value.stored).1 with
  | error error => exact fails run starts error result
  | ok _ => exact ends run starts result

/-- What every round of a counted loop keeps up, the loop keeps up. -/
theorem iterate {action : Int → Execute Unit}
    (round : ∀ value, Ensures before (action value) (fun _ => before) failed) (count : Nat)
    (value : Int) :
    Ensures before (Execute.iterate action count value) (fun _ => before) failed := by
  induction count generalizing value with
  | zero => exact pure fun _ => id
  | succ count hypothesis => exact (round value).bind fun _ => hypothesis (value + 1)

end Ensures

end FieldKernel
