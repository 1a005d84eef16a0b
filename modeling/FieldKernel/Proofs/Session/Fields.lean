import FieldKernel.Proofs.Execution.Atomicity
import FieldKernel.Proofs.Session.Attempts
import FieldKernel.Proofs.Session.Scripts

/-!
# Fields as host code sees them

Host code reads and writes the elements of a placed field through the program
of its layout.  The program's storage is made at the first access and stays.
A whole number that is written goes through 64 signed bits on its way to the
type of the field: it is refused if it does not fit in those, and otherwise it
is wrapped around to the field's own size.
-/

namespace FieldKernel

/-- The layout of a live program is sealed, and if the program has a storage, it
is one of this layout. -/
structure Session.Serves (session : Session) (program id : Nat) (tree : Tree) : Prop where
  alive : (session.program program).alive
  owns : (session.program program).tree = id
  known : session.layouts[id]? = some tree
  belongs : tree.program? = some program
  isSealed : tree.isSealed
  declared : tree.Declared
  stored {number : Nat} (has : (session.program program).storage? = some number) :
    number < session.storages.size ∧ (session.storage number).Of id tree

/-- A storage has other contents. -/
def Session.storing (session : Session) (number : Nat) (storage : Storage) : Session :=
  { session with storages := session.storages.modify number fun _ => storage }

namespace Session.Serves

variable {session : Session} {program id : Nat} {tree : Tree}

/-- Another session that has the same objects and programs, and where the storage
of the program is of the layout. -/
theorem changed (serves : session.Serves program id tree) {other : Session}
    (objects : other.toObjects = session.toObjects)
    (same : other.program program = { session.program program with
      storage? := (other.program program).storage? })
    (stored : ∀ number, (other.program program).storage? = some number →
      number < other.storages.size ∧ (other.storage number).Of id tree) :
    other.Serves program id tree where
  alive := by
    rw [same]
    exact serves.alive
  owns := by
    rw [same]
    exact serves.owns
  known := by
    rw [objects]
    exact serves.known
  belongs := serves.belongs
  isSealed := serves.isSealed
  declared := serves.declared
  stored has := stored _ has

theorem storing (serves : session.Serves program id tree) {number : Nat}
    (has : (session.program program).storage? = some number) {storage : Storage}
    (kept : storage.Of id tree) :
    (session.storing number storage).Serves program id tree ∧
      (session.storing number storage).storage number = storage := by
  obtain ⟨known, _⟩ := serves.stored has
  have here : (session.storing number storage).storage number = storage := by
    simp [Session.storing, Session.storage, Array.getElem_modify, known]
  refine ⟨serves.changed rfl rfl fun other found => ?_, here⟩
  have same : other = number := Option.some.inj (found.symm.trans has)
  subst same
  rw [here]
  exact ⟨by simpa [Session.storing] using known, kept⟩

end Session.Serves

theorem Session.storing_same (session : Session) {number : Nat}
    (known : number < session.storages.size) :
    session.storing number (session.storage number) = session := by
  suffices same : session.storages.modify number (fun _ => session.storage number) =
      session.storages by
    rw [storing, same]
  apply Array.ext_getElem?
  intro other
  rw [Array.getElem?_modify]
  split
  · next here =>
    subst here
    simp [Session.storage, known]
  · rfl

/-- A program has been given a storage. -/
def Session.opened (session : Session) (program : Nat) (storage : Storage) : Session :=
  { session with
    storages := session.storages.push storage
    programs := session.programs.modify program fun entry =>
      { entry with storage? := some session.storages.size }
    log := session.log.push
      (.detail .program s!"materialized {storage.leaves.length} field(s)") }

namespace Action

variable {session : Session} {program id : Nat} {tree : Tree} {leaf : Node} {field : Field}

theorem storageOf_found (alive : (session.program program).alive) {number : Nat}
    (has : (session.program program).storage? = some number) :
    (storageOf program).run.run session = (.ok number, session) := by
  rw [storageOf, run_run_bind, HostT.run_checkAlive, if_pos alive]
  dsimp only
  rw [run_run_get_bind, has]
  rfl

/-- A program without a storage gets one that is made of its layout. -/
theorem storageOf_missing (alive : (session.program program).alive)
    (missing : (session.program program).storage? = none) :
    (storageOf program).run.run session =
      if (session.tree (session.program program).tree).isSealed then
        match Storage.ofTree (session.program program).tree
            (session.tree (session.program program).tree)
            (session.node ⟨(session.program program).tree, 0⟩) with
        | .ok storage => (.ok session.storages.size, session.opened program storage)
        | .error error => (.error error, session)
      else (.error (.contract .layoutOpen), session) := by
  rw [storageOf, run_run_bind, HostT.run_checkAlive, if_pos alive]
  dsimp only
  rw [run_run_get_bind, missing]
  dsimp only
  split
  · rw [run_run_bind, run_ofExcept]
    cases Storage.ofTree _ _ _ <;> rfl
  · rfl

/-- The storage of the program is found, or made of the layout. -/
theorem storageOf_serves (serves : session.Serves program id tree) :
    ∃ number final, (storageOf program).run.run session = (.ok number, final) ∧
      final.Serves program id tree ∧ (final.program program).storage? = some number ∧
      final.toObjects = session.toObjects := by
  cases has : (session.program program).storage? with
  | some number =>
      exact ⟨number, session, storageOf_found serves.alive has, serves, has, rfl⟩
  | none =>
      have same : session.tree (session.program program).tree = tree := by
        rw [serves.owns, Objects.tree, serves.known]
        rfl
      have root : session.node ⟨(session.program program).tree, 0⟩ = Tree.root := by
        rw [Objects.node, same, serves.declared.rooted]
        rfl
      obtain ⟨storage, made⟩ : ∃ storage, Storage.ofTree id tree Tree.root = .ok storage := by
        rw [Storage.ofTree, if_pos serves.isSealed]
        exact ⟨_, rfl⟩
      have entry : (session.opened program storage).program program =
          { session.program program with storage? := some session.storages.size } :=
        session.program_modified_self serves.alive _
      refine ⟨session.storages.size, session.opened program storage,
        ?_, serves.changed rfl ?_ ?_, ?_, rfl⟩
      · rw [storageOf_missing serves.alive has, same, root, serves.owns, if_pos serves.isSealed,
          made]
      · rw [entry]
      · intro number found
        rw [entry, Option.some.injEq] at found
        subst found
        constructor
        · simp [Session.opened]
        · have last : (session.opened program storage).storage session.storages.size = storage := by
            simp [Session.opened, Session.storage]
          rw [last]
          exact Storage.of_ofTree made
      · rw [entry]

theorem run_positions (index : List HostValue) :
    (liftM (positions index) : Action (List Int)).run.run session =
      (positions index session.toObjects, session) :=
  rfl

theorem leafIn_run (kept : (session.storage program).Of id tree) (proper : tree.Proper)
    (known : session.layouts[id]? = some tree)
    (placed : session.layouts.leafOf? field = some (id, leaf)) {target : HostValue}
    (named : target.field? = some field) :
    (leafIn program target).run.run session = (.ok leaf, session) := by
  have found := kept.leafOf_eq proper known placed
  have asked : (liftM (Ask.field target "snode") : Action Field).run.run session =
      (.ok field, session) := by
    rw [Ask.field, named]
    rfl
  rw [leafIn, run_run_bind, asked]
  dsimp only
  rw [run_run_get_bind, found]
  rfl

theorem accessed_run (serves : session.Serves program id tree)
    (placed : session.layouts.leafOf? field = some (id, leaf)) {index : List HostValue}
    {position : List Int} (indexed : positions index session.toObjects = .ok position) :
    (accessed field index).run.run session = (.ok (program, position), session) := by
  have owner : (programOf ⟨id, leaf.id⟩).run.run session = (.ok program, session) := by
    have same : session.tree id = tree := by
      rw [Objects.tree, serves.known]
      rfl
    rw [programOf, run_run_get_bind, same, serves.belongs]
    rfl
  rw [accessed, run_run_get_bind, placed]
  dsimp only
  rw [run_run_bind, owner]
  dsimp only
  rw [run_run_bind, run_positions, indexed]
  rfl

/-- An access to a placed field comes down to one to its leaf in the storage. -/
theorem access_run (serves : session.Serves program id tree)
    (placed : session.layouts.leafOf? field = some (id, leaf)) {target : HostValue}
    (named : target.field? = some field) {index : List HostValue} {position : List Int}
    (indexed : positions index session.toObjects = .ok position) :
    ∃ number final, (storageOf program).run.run session = (.ok number, final) ∧
      final.Serves program id tree ∧ (final.program program).storage? = some number ∧
      final.toObjects = session.toObjects ∧
      (readField target index).run.run session = (readLeaf number leaf position).run.run final ∧
      ∀ value, (writeField target index value).run.run session =
        (writeLeaf number leaf position value).run.run final := by
  obtain ⟨number, final, opened, served, has, same⟩ := storageOf_serves serves
  have leafIn := leafIn_run (served.stored has).2 serves.declared.proper served.known
    (by rw [same]; exact placed) named
  have asked (name : String) : (liftM (Ask.field target name) : Action Field).run.run session =
      (.ok field, session) := by
    rw [Ask.field, named]
    rfl
  refine ⟨number, final, opened, served, has, same, ?_, fun value => ?_⟩
  · rw [readField, run_run_bind, asked]
    dsimp only
    rw [run_run_bind, accessed_run serves placed indexed]
    dsimp only
    rw [run_run_bind, opened]
    dsimp only
    rw [run_run_bind, leafIn]
  · rw [writeField, run_run_bind, asked]
    dsimp only
    rw [run_run_bind, accessed_run serves placed indexed]
    dsimp only
    rw [run_run_bind, opened]
    dsimp only
    rw [run_run_bind, leafIn]

end Action

theorem Objects.stored_int (objects : Objects) (key : Nat) (value : Int) (type : DataType) :
    objects.stored (.int key value) type = (Literal.int value).convert type := by
  have scalars : (Ask.scalars (.int key value) type).run objects =
      Box.ofScalar <$> (Literal.int value).convert type := rfl
  rw [stored, scalars]
  cases (Literal.int value).convert type with
  | error error => rfl
  | ok scalar => rfl

namespace Storage

variable {storage : Storage} {id : Nat} {tree : Tree} {leaf : Node} {position : List Int}
  {convert : DataType → Except Error Scalar}

/-- What was written is read. -/
theorem Of.read_write (kept : storage.Of id tree) (proper : tree.Proper)
    (member : leaf ∈ tree.declared) (isLeaf : leaf.isLeaf) (inside : leaf.InRange position)
    {value : Scalar} (converted : convert leaf.type = .ok value) :
    (storage.write leaf.id position convert).1 = .ok () ∧
      (storage.write leaf.id position convert).2.read leaf.id position = .ok value := by
  have held := kept.leaf?_eq proper member isLeaf
  have ready := prepared_eq_ok held inside converted
  have alike : storage.Alike (storage.write leaf.id position convert).2 :=
    alike_write leaf.id position convert
  have found := (alike.of kept).leaf?_eq proper member isLeaf
  refine ⟨(kept.keepsPointers proper).write_ok ready, ?_⟩
  have value : (storage.write leaf.id position convert).2.get leaf (position.map Int.toNat) =
      value := by
    rw [Storage.get, write_of_ok ready, written_activate]
    simp [put]
  simp only [Storage.read, Storage.leaf, found, checkIndex_eq_ok.mpr ⟨inside, rfl⟩, bind,
    Except.bind, pure, Except.pure, value]

/-- A value that cannot be converted is not written. -/
theorem Of.write_refused (kept : storage.Of id tree) (proper : tree.Proper)
    (member : leaf ∈ tree.declared) (isLeaf : leaf.isLeaf) (inside : leaf.InRange position)
    {error : Error} (refused : convert leaf.type = .error error) :
    storage.write leaf.id position convert = (.error error, storage) := by
  refine write_of_error ?_
  simp only [prepared, Storage.leaf, kept.leaf?_eq proper member isLeaf,
    checkIndex_eq_ok.mpr ⟨inside, rfl⟩, refused, bind, Except.bind]

end Storage

theorem IntType.wrap_eq_self_iff {type : IntType} {value : Int} :
    type.wrap value = value ↔ type.InRange value := by
  constructor
  · intro same
    rw [← same]
    exact type.wrap_inRange value
  · exact wrap_of_inRange

/-- The error of a number that does not fit shows the number, if it can. -/
theorem Literal.wide_eq (value : Int) (type : DataType) :
    wide value type = if 10 ^ Text.digitLimit ≤ value.natAbs then .host (.value .longNumber)
      else .run (.doesNotFit (toString value) type (.wide (toString value))) := by
  simp only [wide, Text.decimal, Text.isTooLong_iff]
  split <;> rfl

namespace Action

variable {session : Session} {program id : Nat} {tree : Tree} {leaf : Node} {field : Field}
  {type : IntType}

section Access

variable (serves : session.Serves program id tree)
  (placed : session.layouts.leafOf? field = some (id, leaf)) {target : HostValue}
  (named : target.field? = some field) {index : List HostValue} {position : List Int}
  (indexed : positions index session.toObjects = .ok position) (inside : leaf.InRange position)

include serves placed

theorem placed_member : leaf ∈ tree.declared ∧ leaf.isLeaf := by
  obtain ⟨_, inTree, held⟩ := Layouts.leafOf?_eq_some placed
  rw [serves.known, Option.some.injEq] at inTree
  cases inTree
  exact Tree.mem_of_leafOf? held

include named indexed inside

/-- What can be converted is written, and read afterwards. -/
theorem writeField_converted {value : HostValue} {scalar : Scalar}
    (converted : session.toObjects.stored value leaf.type = .ok scalar) :
    ∃ after, (writeField target index value).run.run session = (.ok (), after) ∧
      (readField target index).run.run after = (.ok scalar, after) := by
  obtain ⟨member, isLeaf⟩ := placed_member serves placed
  obtain ⟨number, final, _, served, has, same, _, writes⟩ :=
    access_run serves placed named indexed
  obtain ⟨_, kept⟩ := served.stored has
  rw [← same] at placed indexed converted
  obtain ⟨succeeds, reads⟩ :=
    kept.read_write served.declared.proper member isLeaf inside converted
  obtain ⟨serving, here⟩ := served.storing has ((Storage.alike_serve
    (.write leaf.id position (final.toObjects.stored value))).of kept)
  obtain ⟨_, _, found, _, _, _, read, _⟩ := access_run serving placed named indexed
  rw [storageOf_found serving.alive has, Prod.mk.injEq, Except.ok.injEq] at found
  obtain ⟨rfl, rfl⟩ := found
  refine ⟨final.storing number ((final.storage number).serve
    (.write leaf.id position (final.toObjects.stored value))), ?_, ?_⟩
  · rw [writes, writeLeaf_run rfl, succeeds]
    rfl
  · rw [read, readLeaf_run, here]
    exact congrArg (·, _) reads

/-- What cannot be converted is refused, and all elements of the layout are read
as if nothing had been written. -/
theorem writeField_refused {value : HostValue} {error : Error}
    (refused : session.toObjects.stored value leaf.type = .error error) :
    ∃ after, (writeField target index value).run.run session = (.error error, after) ∧
      ∀ other node, session.layouts.leafOf? other = some (id, node) →
        ∀ source places found, HostValue.field? source = some other →
          positions places session.toObjects = .ok found →
          (readField source places).run.run after = (readField source places).run.run session := by
  obtain ⟨member, isLeaf⟩ := placed_member serves placed
  obtain ⟨number, final, opened, served, has, same, _, writes⟩ :=
    access_run serves placed named indexed
  obtain ⟨known, kept⟩ := served.stored has
  rw [← same] at refused
  refine ⟨final, ?_, fun other node placedOther source places found namedOther indexedOther => ?_⟩
  · rw [writes, writeLeaf_run rfl, Storage.serve,
      kept.write_refused served.declared.proper member isLeaf inside refused]
    exact congrArg (_, ·) (final.storing_same known)
  have reads := access_run serves placedOther namedOther indexedOther
  rw [← same] at placedOther indexedOther
  have readsAfter := access_run served placedOther namedOther indexedOther
  obtain ⟨_, _, openedHere, _, _, _, read, _⟩ := reads
  rw [opened, Prod.mk.injEq, Except.ok.injEq] at openedHere
  obtain ⟨rfl, rfl⟩ := openedHere
  obtain ⟨_, _, openedAfter, _, _, _, readAfter, _⟩ := readsAfter
  rw [storageOf_found served.alive has, Prod.mk.injEq, Except.ok.injEq] at openedAfter
  obtain ⟨rfl, rfl⟩ := openedAfter
  rw [read]
  exact readAfter

/-- A whole number is written to an element of a placed field of an integer type.
If 64 signed bits can hold the number, the write succeeds, and reading the
element gives the number modulo the size of the type: the number itself if and
only if the type can hold it.  Otherwise the number is refused, by the error that
shows it or, with too many digits for that, by a fault of the host, and all
elements of the layout are read as if nothing had been written. -/
theorem writeField_int (integral : leaf.type = .integer type) (key : Nat) (value : Int) :
    (IntType.InRange ⟨true, .w64⟩ value → ∃ after,
      (writeField target index (.int key value)).run.run session = (.ok (), after) ∧
      (readField target index).run.run after = (.ok (.ofInt type value), after) ∧
      ((Scalar.ofInt type value).toLiteral = .int value ↔ type.InRange value)) ∧
    (¬ IntType.InRange ⟨true, .w64⟩ value → ∃ after,
      (writeField target index (.int key value)).run.run session =
        (.error (if 10 ^ Text.digitLimit ≤ value.natAbs then .host (.value .longNumber)
          else .run (.doesNotFit (toString value) (.integer type) (.wide (toString value)))),
          after) ∧
      ∀ other node, session.layouts.leafOf? other = some (id, node) →
        ∀ source places found, HostValue.field? source = some other →
          positions places session.toObjects = .ok found →
          (readField source places).run.run after =
            (readField source places).run.run session) := by
  have converts : session.toObjects.stored (.int key value) leaf.type =
      if IntType.InRange ⟨true, .w64⟩ value then .ok (.ofInt type value)
      else .error (if 10 ^ Text.digitLimit ≤ value.natAbs then .host (.value .longNumber)
        else .run (.doesNotFit (toString value) (.integer type) (.wide (toString value)))) := by
    rw [Objects.stored_int, integral, Literal.convert_int, Literal.wide_eq]
  constructor
  · intro fits
    rw [if_pos fits] at converts
    obtain ⟨after, writes, reads⟩ :=
      writeField_converted serves placed named indexed inside converts
    refine ⟨after, writes, reads, ?_⟩
    simp only [Scalar.toLiteral, Scalar.ofInt, Literal.int.injEq]
    exact IntType.wrap_eq_self_iff
  · intro wide
    rw [if_neg wide] at converts
    exact writeField_refused serves placed named indexed inside converts

end Access

end Action

namespace Narrow

/-- A field of 8 bits without axes. -/
def field : Field :=
  ⟨0, ⟨0, some "a"⟩, .i8⟩

def tree : Tree :=
  { ((Tree.new (some 0)).add Tree.root (.place field) []).1 with isSealed := true }

def leaf : Node :=
  ((Tree.new (some 0)).add Tree.root (.place field) []).2

/-- A program in whose layout the field is placed. -/
def session : Session :=
  ((do
    let _ ← Action.newProgram none
    Action.place ⟨0, 0⟩ [.expr (.field field)]
    Action.sealTree ⟨0, 0⟩ : Action Unit).run.run .start).2

theorem serves : session.Serves 0 0 tree where
  alive := rfl
  owns := rfl
  known := rfl
  belongs := rfl
  isSealed := rfl
  declared := .sealed (.place (.new (some 0)) (by simp [Tree.declared_new]) rfl (by decide)) rfl
  stored has := by cases has

theorem inside : leaf.InRange [] := by
  have axes : leaf.lineage.axes = [] := by
    simp [leaf, Tree.add, Tree.root, Node.lineage, Lineage.axes, Lineage.bounds]
  rw [Node.InRange, Lineage.shape, axes]
  exact .nil

theorem placed : session.layouts.leafOf? field = some (0, leaf) :=
  rfl

theorem named : (HostValue.expr (.field field)).field? = some field :=
  rfl

theorem indexed : Action.positions [] session.toObjects = .ok [] :=
  rfl

/-- The number 300 is written to the field, 2 to the power of 63 is refused, and
so is the least number with too many digits. -/
theorem writeField_wide :
    (∃ after, (Action.writeField (.expr (.field field)) [] (.int 1 300)).run.run session =
        (.ok (), after) ∧
      (Action.readField (.expr (.field field)) []).run.run after =
        (.ok (.ofInt ⟨true, .w8⟩ 300), after) ∧
      ((Scalar.ofInt ⟨true, .w8⟩ 300).toLiteral = .int 300 ↔
        IntType.InRange ⟨true, .w8⟩ 300)) ∧
    (∃ after, (Action.writeField (.expr (.field field)) [] (.int 1 (2 ^ 63))).run.run session =
      (.error (.run (.doesNotFit (toString (2 ^ 63 : Int)) .i8 (.wide (toString (2 ^ 63 : Int))))),
        after)) ∧
    ∃ after, (Action.writeField (.expr (.field field)) []
        (.int 1 ((10 ^ Text.digitLimit : Nat) : Int))).run.run session =
      (.error (.host (.value .longNumber)), after) := by
  have writes (value : Int) :=
    Action.writeField_int serves placed named indexed inside rfl 1 value
  obtain ⟨after, refused, _⟩ := (writes (2 ^ 63)).2 (by decide)
  obtain ⟨final, unwritten, _⟩ :=
    (writes ((10 ^ Text.digitLimit : Nat) : Int)).2 (by decide +kernel)
  rw [if_neg (by decide +kernel)] at refused
  rw [if_pos (Int.natAbs_natCast _).ge] at unwritten
  exact ⟨(writes 300).1 (by decide), ⟨after, refused⟩, final, unwritten⟩

/-- The number 300, which 8 bits cannot hold, is not refused, and 44 is read. -/
theorem writeField_silent :
    ¬ IntType.InRange ⟨true, .w8⟩ 300 ∧
      ∃ after, (Action.writeField (.expr (.field field)) [] (.int 1 300)).run.run session =
          (.ok (), after) ∧
        ∃ read, (Action.readField (.expr (.field field)) []).run.run after = (.ok read, after) ∧
          read.toLiteral = .int 44 := by
  have converted : session.toObjects.stored (.int 1 300) leaf.type =
      .ok (.int ⟨true, .w8⟩ 44 (by decide)) := rfl
  obtain ⟨after, writes, reads⟩ :=
    Action.writeField_converted serves placed named indexed inside converted
  exact ⟨by decide, after, writes, _, reads, rfl⟩

end Narrow

end FieldKernel
