import FieldKernel.Proofs.Execution.Steps
import FieldKernel.Proofs.Storage.Contents
import FieldKernel.Session.Field

/-!
# Storages as maps

What host code and kernels do with a storage reads and writes single elements.
A write is accomplished as a whole or changes nothing, and a run that fails has
accomplished the stores before the statement that fails, and nothing else.
-/

namespace FieldKernel

/-- What is stored of a value of the host among elements of a type. -/
def Objects.stored (objects : Objects) (value : HostValue) (type : DataType) :
    Except Error Scalar := do
  (← (Ask.scalars value type).run objects).element

namespace Action

variable {session : Session} {id : Nat} {leaf : Node} {position : List Int}

/-- Host code reads an element as it is in the storage, and changes nothing. -/
theorem readLeaf_run :
    (readLeaf id leaf position).run.run session =
      ((session.storage id).read leaf.id position, session) :=
  rfl

/-- What host code writes is a request to the storage. -/
theorem writeLeaf_run {value : HostValue} {convert : DataType → Except Error Scalar}
    (converts : convert = session.toObjects.stored value) :
    (writeLeaf id leaf position value).run.run session =
      (((session.storage id).write leaf.id position convert).1,
        { session with
          storages := session.storages.modify id
            fun _ => (session.storage id).serve (.write leaf.id position convert) }) := by
  rw [converts]
  rfl

end Action

/-- A run that succeeds does to a storage what all its steps do. -/
theorem KernelIR.run_succeeded {ir : KernelIR} {objects : Objects} {storage : Storage}
    {hostArgs : List HostValue} (keeps : storage.KeepsPointers)
    (succeeds : (ir.run objects storage hostArgs).outcome = .ok ()) :
    ∃ args, (ir.checkCall storage hostArgs).run objects = .ok args ∧
      Performed (ir.contextFor objects.rendering args) storage
        (ir.steps objects.rendering storage args) (ir.run objects storage hostArgs).storage := by
  rcases ir.run_ends objects hostArgs keeps with ⟨_, _, refused⟩ | ⟨args, checked, ends⟩
  · rw [refused] at succeeds
    cases succeeds
  · exact ⟨args, checked, ends.performed succeeds⟩

/-- What a run that fails does to a storage: nothing if its call is refused, and
what the stores before the failing step do if it is not. -/
theorem KernelIR.run_failed {ir : KernelIR} {objects : Objects} {storage : Storage}
    {hostArgs : List HostValue} (keeps : storage.KeepsPointers) {error : Error}
    (fails : (ir.run objects storage hostArgs).outcome = .error error) :
    ((ir.checkCall storage hostArgs).run objects = .error error ∧
        (ir.run objects storage hostArgs).storage = storage) ∨
      ∃ args done failing left, (ir.checkCall storage hostArgs).run objects = .ok args ∧
        ir.steps objects.rendering storage args = done ++ [failing] ∧
        Performed (ir.contextFor objects.rendering args) storage done
          (ir.run objects storage hostArgs).storage ∧
        (failing.task.attempt (ir.contextFor objects.rendering args)).run.run failing.run =
          (.error error, left) ∧
        failing.run.storage = (ir.run objects storage hostArgs).storage ∧
        left.storage = (ir.run objects storage hostArgs).storage := by
  rcases ir.run_ends objects hostArgs keeps with
    ⟨refusal, unchecked, refused⟩ | ⟨args, checked, ends⟩
  · left
    rw [refused] at fails ⊢
    cases fails
    exact ⟨unchecked, rfl⟩
  · right
    rw [fails] at ends
    generalize (ir.run objects storage hostArgs).storage = final at ends ⊢
    generalize listed : ir.steps objects.rendering storage args = steps at ends ⊢
    cases ends with
    | failed performed same failed =>
        exact ⟨args, _, _, _, checked, listed, performed, failed, same, rfl⟩

namespace Storage

variable {storage : Storage} {id : Nat} {tree : Tree}

/-- On a new storage of a sealed tree, after any sequence of reads and writes:
reading an element in range gives the value that the last accomplished write to
it has brought, or zero, and an element that is not active reads zero.  What was
accomplished was asked for, with the value that converting gave for the type of
the leaf.  A write succeeds if and only if its index is in range and its value
can be converted, and changes nothing if it fails.  A run that succeeds leaves
what all its stores have left.  One that fails has been refused as a call, which
changes nothing, or leaves what the stores before the failing statement have
left, all of which are accomplished. -/
theorem read_eq_lastWritten (declared : tree.Declared)
    (made : Storage.ofTree id tree Tree.root = .ok storage) (requests : List Request) :
    (∀ leaf ∈ tree.declared, leaf.isLeaf → ∀ position, leaf.InRange position →
      ∃ zero, Scalar.zero? leaf.type = some zero ∧
        (storage.serveAll requests).read leaf.id position =
          .ok ((lastWritten (storage.history requests) leaf (position.map Int.toNat)).getD zero) ∧
        ((storage.serveAll requests).queryActive leaf.id position = .ok false →
          (storage.serveAll requests).read leaf.id position = .ok zero)) ∧
    (∀ written ∈ storage.history requests, ∃ position convert,
      Request.write written.leaf.id position convert ∈ requests ∧
        written.leaf.InRange position ∧ written.index = position.map Int.toNat ∧
        convert written.leaf.type = .ok written.value) ∧
    (∀ leaf ∈ tree.declared, leaf.isLeaf → ∀ position convert,
      ((storage.serveAll requests).write leaf.id position convert).1 = .ok () ↔
        leaf.InRange position ∧ ∃ value, convert leaf.type = .ok value) ∧
    (∀ number position convert error,
      ((storage.serveAll requests).write number position convert).1 = .error error →
        ((storage.serveAll requests).write number position convert).2 =
          storage.serveAll requests) ∧
    (∀ (ir : KernelIR) (objects : Objects) (hostArgs : List HostValue),
      (ir.run objects (storage.serveAll requests) hostArgs).outcome = .ok () →
        ∃ args,
          (ir.checkCall (storage.serveAll requests) hostArgs).run objects = .ok args ∧
          Performed (ir.contextFor objects.rendering args) (storage.serveAll requests)
            (ir.steps objects.rendering (storage.serveAll requests) args)
            (ir.run objects (storage.serveAll requests) hostArgs).storage ∧
          (ir.run objects (storage.serveAll requests) hostArgs).storage =
            storage.serveAll (requests ++
              (ir.steps objects.rendering (storage.serveAll requests) args).filterMap
                (Step.request? (ir.contextFor objects.rendering args)))) ∧
    ∀ (ir : KernelIR) (objects : Objects) (hostArgs : List HostValue) (error : Error),
      (ir.run objects (storage.serveAll requests) hostArgs).outcome = .error error →
        ((ir.checkCall (storage.serveAll requests) hostArgs).run objects = .error error ∧
            (ir.run objects (storage.serveAll requests) hostArgs).storage =
              storage.serveAll requests) ∨
          ∃ args done failing left,
            (ir.checkCall (storage.serveAll requests) hostArgs).run objects = .ok args ∧
            ir.steps objects.rendering (storage.serveAll requests) args = done ++ [failing] ∧
            Performed (ir.contextFor objects.rendering args) (storage.serveAll requests) done
              (ir.run objects (storage.serveAll requests) hostArgs).storage ∧
            (ir.run objects (storage.serveAll requests) hostArgs).storage =
              storage.serveAll (requests ++
                done.filterMap (Step.request? (ir.contextFor objects.rendering args))) ∧
            (failing.task.attempt (ir.contextFor objects.rendering args)).run.run failing.run =
              (.error error, left) ∧
            left.storage = (ir.run objects (storage.serveAll requests) hostArgs).storage := by
  have proper := declared.proper
  have kept := (alike_serveAll requests).of (of_ofTree made)
  have keeps := kept.keepsPointers proper
  refine ⟨?_, ?_, ?_, ?_, ?_, ?_⟩
  · intro leaf member isLeaf position inside
    obtain ⟨zero, blank⟩ := Scalar.exists_zero (proper.type_known member isLeaf)
    have reads := (contains_serveAll proper made requests).read proper kept member isLeaf inside blank
    refine ⟨zero, blank, reads, ?_⟩
    intro inactive
    rw [queryActive_eq proper kept member isLeaf (checkIndex_eq_ok.mpr ⟨inside, rfl⟩),
      Except.ok.injEq] at inactive
    rw [reads, (activates_serveAll proper made requests).lastWritten_eq_none proper member inactive]
    rfl
  · intro written among
    obtain ⟨_, _, asked⟩ := mem_history (of_ofTree made) proper among
    exact asked
  · intro leaf member isLeaf position convert
    rw [keeps.write_eq_ok, kept.leaf?_eq proper member isLeaf]
    simp
  · intro number position convert error fails
    exact (keeps.unchanged fails).2
  · intro ir objects hostArgs succeeds
    obtain ⟨args, checked, performed⟩ := KernelIR.run_succeeded keeps succeeds
    refine ⟨args, checked, performed, ?_⟩
    rw [performed.serveAll, serveAll_append]
  · intro ir objects hostArgs error fails
    rcases KernelIR.run_failed keeps fails with
      refused | ⟨args, done, failing, left, checked, listed, performed, failed, _, rest⟩
    · exact .inl refused
    · refine .inr ⟨args, done, failing, left, checked, listed, performed, ?_, failed, rest⟩
      rw [performed.serveAll, serveAll_append]

end Storage

namespace Blocks

theorem inside {position : Int} (within : Within position 8) : leaf.InRange [position] := by
  rw [Node.InRange, shape]
  exact .cons within .nil

/-- The write is read where it went, and its neighbour in the cell is zero. -/
theorem reads_in_block :
    ∃ storage value zero, Storage.ofTree 0 tree Tree.root = .ok storage ∧
      (Literal.int 7).convert leaf.type = .ok value ∧ Scalar.zero? leaf.type = some zero ∧
      (storage.serveAll requests).read leaf.id [5] = .ok value ∧
      (storage.serveAll requests).read leaf.id [4] = .ok zero := by
  obtain ⟨storage, made⟩ : ∃ storage, Storage.ofTree 0 tree Tree.root = .ok storage := ⟨_, rfl⟩
  obtain ⟨value, converted⟩ : ∃ value, (Literal.int 7).convert leaf.type = .ok value := ⟨_, rfl⟩
  have kept := Storage.of_ofTree made
  have held : storage.leaf? leaf.id = some leaf := kept.leaf?_eq declared.proper (by decide) rfl
  have ready : storage.prepared leaf.id [5] (fun type => (Literal.int 7).convert type) =
      .ok (leaf, [5], value) :=
    Storage.prepared_eq_ok held (inside (by constructor <;> decide)) converted
  have past : storage.history requests = [⟨leaf, [5], value⟩] := by
    simp only [requests, Storage.history, Storage.accomplished, ready,
      (kept.keepsPointers declared.proper).write_ok ready, List.append_nil]
  have reads := (Storage.read_eq_lastWritten declared made requests).1 leaf (by decide) rfl
  obtain ⟨_, _, written, _⟩ := reads [5] (inside (by constructor <;> decide))
  obtain ⟨zero, blank, unwritten, _⟩ := reads [4] (inside (by constructor <;> decide))
  rw [past] at written unwritten
  exact ⟨storage, value, zero, made, converted, blank, written, unwritten⟩

end Blocks

end FieldKernel
