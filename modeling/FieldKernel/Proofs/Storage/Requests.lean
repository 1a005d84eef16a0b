import FieldKernel.Proofs.Storage.Writes

/-!
# Sequences of requests

What host code and kernels ask of a storage are reads and writes.  A sequence
of requests leads from one state of the storage to another, and some of its
writes are accomplished on the way.
-/

namespace FieldKernel

/-- What a storage is asked for.  Host code and kernels differ in how the value
of a write is converted. -/
inductive Request where
  | read (id : Nat) (position : List Int)
  | write (id : Nat) (position : List Int) (convert : DataType → Except Error Scalar)

/-- A write that was accomplished. -/
structure Written where
  leaf : Node
  index : List Nat
  value : Scalar

namespace Storage

/-- The storage after a request. -/
def serve (storage : Storage) : Request → Storage
  | .read _ _ => storage
  | .write id position convert => (storage.write id position convert).2

/-- The write that a request accomplishes, if it is one and succeeds. -/
def accomplished (storage : Storage) : Request → List Written
  | .read _ _ => []
  | .write id position convert =>
    match storage.prepared id position convert, (storage.write id position convert).1 with
    | .ok (leaf, index, value), .ok () => [⟨leaf, index, value⟩]
    | _, _ => []

/-- The storage after a sequence of requests. -/
def serveAll (storage : Storage) : List Request → Storage
  | [] => storage
  | first :: rest => (storage.serve first).serveAll rest

/-- The writes that a sequence of requests accomplishes, in their order. -/
def history (storage : Storage) : List Request → List Written
  | [] => []
  | first :: rest => storage.accomplished first ++ (storage.serve first).history rest

theorem serveAll_append (storage : Storage) (requests later : List Request) :
    storage.serveAll (requests ++ later) = (storage.serveAll requests).serveAll later := by
  induction requests generalizing storage with
  | nil => rfl
  | cons first rest hypothesis => exact hypothesis (storage.serve first)

theorem history_append (storage : Storage) (requests later : List Request) :
    storage.history (requests ++ later) =
      storage.history requests ++ (storage.serveAll requests).history later := by
  induction requests generalizing storage with
  | nil => rfl
  | cons first rest hypothesis =>
      simp only [List.cons_append, history, serveAll, hypothesis, List.append_assoc]

variable {storage : Storage}

theorem alike_serve (request : Request) : storage.Alike (storage.serve request) := by
  cases request with
  | read id position => exact .refl storage
  | write id position convert => exact alike_write id position convert

theorem alike_serveAll (requests : List Request) : storage.Alike (storage.serveAll requests) := by
  induction requests generalizing storage with
  | nil => exact .refl storage
  | cons first rest hypothesis => exact (alike_serve first).trans hypothesis

/-- What holds of a storage and what was written to it, whatever request is
served, holds after any sequence of requests. -/
theorem serveAll_induction (holds : Storage → List Written → Prop) {past : List Written}
    (begins : holds storage past)
    (step : ∀ state before, storage.Alike state → holds state before → ∀ request,
      holds (state.serve request) (before ++ state.accomplished request))
    (requests : List Request) :
    holds (storage.serveAll requests) (past ++ storage.history requests) := by
  have general (requests : List Request) (state : Storage) (before : List Written)
      (alike : storage.Alike state) (now : holds state before) :
      holds (state.serveAll requests) (before ++ state.history requests) := by
    induction requests generalizing state before with
    | nil => simpa [serveAll, history] using now
    | cons first rest hypothesis =>
        rw [serveAll, history, ← List.append_assoc]
        exact hypothesis _ _ (alike.trans (alike_serve first)) (step state before alike now first)
  exact general requests storage past (.refl storage) begins

/-- A request accomplishes a write, which makes the cells exist that its
element lies in, or it leaves the storage as it is. -/
theorem serve_cases (keeps : storage.KeepsPointers) (request : Request) :
    (storage.accomplished request = [] ∧ storage.serve request = storage) ∨
      ∃ id position convert leaf index value,
        storage.prepared id position convert = .ok (leaf, index, value) ∧
        storage.accomplished request = [⟨leaf, index, value⟩] ∧
        storage.serve request = (storage.write id position convert).2 := by
  cases request with
  | read id position => exact .inl ⟨rfl, rfl⟩
  | write id position convert =>
      cases ready : storage.prepared id position convert with
      | error error =>
          refine .inl ⟨by simp only [accomplished, ready], ?_⟩
          simp only [serve, write_of_error ready]
      | ok found =>
          obtain ⟨leaf, index, value⟩ := found
          refine .inr ⟨id, position, convert, leaf, index, value, ready, ?_, rfl⟩
          simp only [accomplished, ready, keeps.write_ok ready]

end Storage

end FieldKernel
