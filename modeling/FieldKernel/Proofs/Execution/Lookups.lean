import FieldKernel.Execution.Run
import FieldKernel.Proofs.Storage.Writes
import FieldKernel.Proofs.Written

/-!
# Look-ups that do not fail

Computing on scalars fails in many ways, but never because something is
missing under a key.  A storage that keeps a leaf, and the pointers above it,
finds what it looks up for the leaf.
-/

namespace FieldKernel

/-- An error that is not the failure of a look-up by a key, unless the key is
one of some variables. -/
def Misses (missing : List Nat) (error : Error) : Prop :=
  ∀ key : String, error = .host (.lookup key) → ∃ id ∈ missing, key = toString id

/-- An outcome that does not fail because something is missing, some variables
apart. -/
def Finds {α : Type} (missing : List Nat) (outcome : Except Error α) : Prop :=
  ∀ error, outcome = .error error → Misses missing error

variable {missing : List Nat}

namespace Misses

theorem of_ne {error : Error} (other : ∀ key, error ≠ .host (.lookup key)) :
    Misses missing error :=
  fun key same => absurd same (other key)

/-- An error that quotes a text is not the failure of a look-up if the error
meant is not, since no fault of writing is. -/
theorem quoting {text : Except HostFault String} {error : String → Error}
    (writes : Writes text) (meant : ∀ text, Misses missing (error text)) :
    Misses missing (.quoting text error) := by
  refine Error.quoting_of_writes writes meant fun fault unwritten key same => ?_
  cases same
  cases unwritten

end Misses

namespace Finds

variable {α β : Type}

theorem ok (result : α) : Finds missing (.ok result : Except Error α) := by
  intro error failure
  cases failure

theorem of_misses {error : Error} (misses : Misses missing error) :
    Finds missing (.error error : Except Error α) := by
  intro _ failure
  cases failure
  exact misses

theorem error {error : Error} (other : ∀ key, error ≠ .host (.lookup key)) :
    Finds missing (.error error : Except Error α) :=
  of_misses (.of_ne other)

theorem bind {outcome : Except Error α} {next : α → Except Error β}
    (first : Finds missing outcome) (second : ∀ result, Finds missing (next result)) :
    Finds missing (outcome >>= next) := by
  cases outcome with
  | error error =>
      intro _ failure
      cases failure
      exact first error rfl
  | ok result => exact second result

end Finds

theorem Scalar.finds_convert (value : Scalar) (type : DataType) :
    Finds missing (value.convert type) := by
  unfold Scalar.convert
  split
  · exact .ok _
  · exact .error (by simp)

theorem Scalar.finds_index (value : Scalar) : Finds missing value.index := by
  unfold Scalar.index
  split
  · exact .ok _
  · exact .error (by simp)
  · exact .error (by simp)

theorem Literal.finds_convert (value : Literal) (type : DataType) :
    Finds missing (value.convert type) := by
  unfold Literal.convert
  split
  · exact Scalar.finds_convert _ _
  · exact .of_misses (.quoting (Text.decimal_counts _).writes fun _ => .of_ne (by simp))
  · exact .error (by simp)

namespace Grid

mutual

theorem finds_mapM {α β : Type} {action : α → Except Error β}
    (each : ∀ item, Finds missing (action item)) (grid : Grid α) :
    Finds missing (grid.mapM action) := by
  cases grid with
  | value only => exact (each only).bind fun _ => .ok _
  | row rows => exact (finds_mapRowsM each rows).bind fun _ => .ok _

theorem finds_mapRowsM {α β : Type} {action : α → Except Error β}
    (each : ∀ item, Finds missing (action item)) (rows : List (Grid α)) :
    Finds missing (mapRowsM action rows) := by
  cases rows with
  | nil => exact .ok []
  | cons first rest =>
      exact (finds_mapM each first).bind fun _ => (finds_mapRowsM each rest).bind fun _ => .ok _

end

end Grid

namespace Box

theorem finds_convert (box : Box) (type : DataType) : Finds missing (box.convert type) := by
  unfold convert ofGrid
  split
  · exact .error (by simp)
  · exact (Grid.finds_mapM (fun scalar => scalar.finds_convert type) _).bind fun _ => .ok _

theorem finds_index (box : Box) : Finds missing box.index := by
  unfold index
  split
  · exact Scalar.finds_index _
  · exact .error (by simp)

theorem finds_element (box : Box) : Finds missing box.element := by
  unfold element
  split
  · exact .ok _
  · exact .error (by simp)

theorem finds_item (box : Box) : Finds missing box.item := by
  unfold item
  split
  · exact .ok _
  · exact .error (by simp)

theorem finds_isTrue (box : Box) : Finds missing box.isTrue := by
  unfold isTrue
  split
  · exact .ok _
  · exact .error (by simp)
  · exact .error (by simp)

end Box

namespace Storage

theorem finds_checkPositions {path : Except HostFault String} (writes : Writes path)
    (position : Nat) (index : List Int) (extents : List Nat) :
    Finds missing (checkPositions path position index extents) := by
  induction index generalizing position extents with
  | nil => exact .ok []
  | cons first rest hypothesis =>
      cases extents with
      | nil => exact .ok []
      | cons extent extents =>
          unfold checkPositions
          split
          · exact .of_misses (.quoting (Text.decimal_counts _).writes fun _ =>
              .quoting (Text.decimal_counts _).writes fun _ => .quoting writes fun _ => .of_ne (by simp))
          · exact (hypothesis (position + 1) extents).bind fun _ => .ok _

theorem finds_checkIndex (leaf : Node) (index : List Int) :
    Finds missing (checkIndex leaf index) := by
  unfold checkIndex
  simp only
  split
  · exact .of_misses (.quoting leaf.path_counts.writes fun _ => .of_ne (by simp))
  · exact finds_checkPositions leaf.path_counts.writes _ _ _

variable {storage : Storage} {id : Nat}

/-- A leaf that is kept is found. -/
theorem leaf_eq_ok (kept : (storage.leaf? id).isSome) :
    ∃ leaf, storage.leaf? id = some leaf ∧ leaf ∈ storage.leaves ∧ storage.leaf id = .ok leaf := by
  obtain ⟨leaf, found⟩ := Option.isSome_iff_exists.mp kept
  exact ⟨leaf, found, List.mem_of_find?_eq_some found, by rw [Storage.leaf, found]⟩

theorem finds_read (kept : (storage.leaf? id).isSome) (index : List Int) :
    Finds missing (storage.read id index) := by
  obtain ⟨leaf, _, _, found⟩ := leaf_eq_ok kept
  rw [read, found]
  exact (finds_checkIndex leaf index).bind fun _ => .ok _

theorem finds_write (kept : (storage.leaf? id).isSome) (pointers : storage.KeepsPointers)
    (index : List Int) {convert : DataType → Except Error Scalar}
    (converts : ∀ type, Finds missing (convert type)) :
    Finds missing (storage.write id index convert).1 := by
  obtain ⟨leaf, _, _, found⟩ := leaf_eq_ok kept
  have prepares : Finds missing (storage.prepared id index convert) := by
    rw [prepared, found]
    exact (finds_checkIndex leaf index).bind fun _ => (converts leaf.type).bind fun _ => .ok _
  exact fun error fails => prepares error (pointers.unchanged fails).1

theorem finds_activeIndices (kept : (storage.leaf? id).isSome)
    (pointers : storage.KeepsPointers) : Finds missing (storage.activeIndices id) := by
  obtain ⟨leaf, _, member, found⟩ := leaf_eq_ok kept
  rw [activeIndices_eq, found]
  simp only [bind, Except.bind, checkPointers_ok (pointers leaf member)]
  exact .ok _

end Storage

namespace RunContext

theorem finds_applied (result? : Option Box) : Finds missing (applied result?) := by
  unfold applied
  split
  · exact .ok _
  · exact .error (by simp)

theorem finds_argument (context : RunContext) (position : Int) :
    Finds missing (context.argument position) := by
  unfold argument
  split
  · exact .ok _
  · exact .error (by simp)

theorem finds_written {text : Except HostFault String} (writes : Writes text) :
    Finds missing (text.mapError .host) := by
  cases text with
  | ok text => exact .ok text
  | error fault =>
      refine .of_misses fun key same => ?_
      cases same
      cases writes _ rfl

/-- No label or value that is printed is looked up. -/
theorem finds_printed (context : RunContext) (writing : context.rendering.Writing)
    (label : HostValue) (value : Box) : Finds missing (context.printed label value) := by
  refine (finds_written (writing.plain label).writes).bind fun label => ?_
  refine value.finds_item.bind fun scalar => ?_
  exact (finds_written (Literal.text_counts _).writes).bind fun text => .ok _

end RunContext

end FieldKernel
