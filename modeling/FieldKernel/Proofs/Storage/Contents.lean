import FieldKernel.Proofs.Storage.Activation

/-!
# The contents of a storage

An element holds what the last accomplished write to it has brought, and zero
before the first.  No other write changes it, whether it goes to another leaf,
to another element, or fails.
-/

namespace FieldKernel

/-- A position on an axis lies within the extent of the axis. -/
def Within (coordinate : Int) (extent : Nat) : Prop :=
  0 ≤ coordinate ∧ coordinate < extent

/-- There is a position for every axis of a node, each within the extent. -/
def Node.InRange (node : Node) (position : List Int) : Prop :=
  List.Forall₂ Within position node.lineage.shape

/-- The value of the last of some writes that went to an element. -/
def lastWritten (past : List Written) (leaf : Node) (index : List Nat) : Option Scalar :=
  (past.reverse.find? fun written => written.leaf = leaf ∧ written.index = index).map (·.value)

theorem lastWritten_append (past : List Written) (written leaf index) :
    lastWritten (past ++ [written]) leaf index =
      if written.leaf = leaf ∧ written.index = index then some written.value
      else lastWritten past leaf index := by
  simp only [lastWritten, List.reverse_append, List.reverse_cons, List.reverse_nil,
    List.nil_append, List.singleton_append, List.find?_cons]
  by_cases same : written.leaf = leaf ∧ written.index = index
  · simp [same]
  · simp [same]

theorem lastWritten_eq_none {past : List Written} {leaf : Node} {index : List Nat}
    (untouched : ∀ written ∈ past, written.leaf = leaf → written.index ≠ index) :
    lastWritten past leaf index = none := by
  simp only [lastWritten, Option.map_eq_none_iff, List.find?_eq_none, List.mem_reverse,
    decide_eq_true_eq, not_and]
  exact untouched

theorem Scalar.exists_zero {type : DataType} (known : type ≠ .unknown) :
    ∃ zero, Scalar.zero? type = some zero := by
  cases type with
  | unknown => exact absurd rfl known
  | _ => exact ⟨_, rfl⟩

namespace Storage

section Positions

theorem checkPositions_eq_ok {path : Except HostFault String} {position : List Int}
    {shape : List Nat} {index : List Nat} (axis : Nat) (lengths : position.length = shape.length) :
    checkPositions path axis position shape = .ok index ↔
      List.Forall₂ Within position shape ∧ index = position.map Int.toNat := by
  induction position generalizing shape index axis with
  | nil =>
      cases shape with
      | nil =>
          simp only [checkPositions, pure, Except.pure, Except.ok.injEq, List.forall₂_nil_left_iff,
            List.map_nil, true_and]
          exact eq_comm
      | cons extent rest => cases lengths
  | cons coordinate rest hypothesis =>
      cases shape with
      | nil => cases lengths
      | cons extent extents =>
          have others := fun index => @hypothesis extents index (axis + 1) (Nat.succ.inj lengths)
          rw [checkPositions, List.forall₂_cons]
          by_cases outside : coordinate < 0 ∨ (extent : Int) ≤ coordinate
          · simp only [outside, if_true, bind, Except.bind, throw, throwThe, MonadExceptOf.throw]
            constructor
            · intro refused
              cases refused
            · rintro ⟨⟨inside, _⟩, _⟩
              obtain ⟨least, most⟩ := inside
              omega
          · simp only [outside, if_false, bind, Except.bind, pure, Except.pure]
            cases checked : checkPositions path (axis + 1) rest extents with
            | error error =>
                constructor
                · intro refused
                  cases refused
                · rintro ⟨⟨_, inside⟩, _⟩
                  have passes := (others _).mpr ⟨inside, rfl⟩
                  rw [checked] at passes
                  cases passes
            | ok found =>
                obtain ⟨inside, same⟩ := (others found).mp checked
                have within : Within coordinate extent := by
                  constructor <;> omega
                simp [inside, same, within, eq_comm]

/-- The indices that pass the check are those in range. -/
theorem checkIndex_eq_ok {leaf : Node} {position : List Int} {index : List Nat} :
    checkIndex leaf position = .ok index ↔
      leaf.InRange position ∧ index = position.map Int.toNat := by
  by_cases lengths : position.length = leaf.lineage.shape.length
  · simp only [checkIndex, lengths, ne_eq, not_true_eq_false, if_false, bind, Except.bind]
    exact checkPositions_eq_ok 0 lengths
  · simp only [checkIndex, ne_eq, lengths, not_false_eq_true, if_true, bind, Except.bind, throw,
      throwThe, MonadExceptOf.throw]
    constructor
    · intro refused
      cases refused
    · intro inside
      exact absurd inside.1.length_eq lengths

end Positions

variable {storage : Storage} {id : Nat} {tree : Tree}

theorem written_activate (leaf : Node) (index : List Nat) (pointers : List Lineage) :
    (activate leaf index pointers storage).2.written = storage.written := by
  induction pointers generalizing storage with
  | nil => rfl
  | cons pointer rest hypothesis =>
      simp only [activate]
      split
      · rw [hypothesis]
        rfl
      · rfl

/-- The elements of a storage are what writes have left in them. -/
def Contains (tree : Tree) (storage : Storage) (past : List Written) : Prop :=
  ∀ leaf ∈ tree.declared, ∀ index,
    storage.written[leaf.id :: index]? = lastWritten past leaf index

theorem Contains.serve (proper : tree.Proper) (kept : storage.Of id tree) {past : List Written}
    (contains : storage.Contains tree past) (request : Request) :
    (storage.serve request).Contains tree (past ++ storage.accomplished request) := by
  rcases serve_cases (kept.keepsPointers proper) request with
    ⟨nothing, same⟩ | ⟨number, position, convert, leaf, index, value, ready, one, after⟩
  · rw [nothing, same, List.append_nil]
    exact contains
  · have member := ((kept.mem_leaves proper).mp (mem_leaves_of_prepared ready)).1
    intro other otherMember otherIndex
    rw [after, one, write_of_ok ready, written_activate, lastWritten_append]
    simp only [put, Std.TreeMap.getElem?_insert, Std.compare_eq_iff_eq]
    have key : leaf.id :: index = other.id :: otherIndex ↔ leaf = other ∧ index = otherIndex := by
      rw [List.cons.injEq]
      constructor
      · rintro ⟨number, same⟩
        exact ⟨proper.eq_of_id member otherMember number, same⟩
      · rintro ⟨rfl, rfl⟩
        exact ⟨rfl, rfl⟩
    by_cases same : leaf = other ∧ index = otherIndex
    · rw [if_pos (key.mpr same), if_pos same]
    · rw [if_neg fun equal => same (key.mp equal), if_neg same]
      exact contains other otherMember otherIndex

theorem contains_serveAll (proper : tree.Proper)
    (made : Storage.ofTree id tree Tree.root = .ok storage) (requests : List Request) :
    (storage.serveAll requests).Contains tree (storage.history requests) := by
  have begins : storage.Contains tree [] := by
    intro leaf _ index
    rw [(ofTree_blank made).1]
    rfl
  refine serveAll_induction (Contains tree) begins ?_ requests
  intro state before alike contains request
  exact contains.serve proper (alike.of (of_ofTree made)) request

section Elements

variable {past : List Written} {leaf : Node} {position : List Int}

/-- Reading an element gives what the last write to it has brought. -/
theorem Contains.read (contains : storage.Contains tree past) (proper : tree.Proper)
    (kept : storage.Of id tree) (member : leaf ∈ tree.declared) (isLeaf : leaf.isLeaf)
    (inside : leaf.InRange position) {zero : Scalar} (blank : Scalar.zero? leaf.type = some zero) :
    storage.read leaf.id position =
      .ok ((lastWritten past leaf (position.map Int.toNat)).getD zero) := by
  have checked := checkIndex_eq_ok.mpr ⟨inside, rfl⟩
  have holds : storage.get leaf (position.map Int.toNat) =
      (lastWritten past leaf (position.map Int.toNat)).getD zero := by
    rw [get, contains leaf member, blank]
    cases lastWritten past leaf (position.map Int.toNat) with
    | none => rfl
    | some value => rfl
  simp only [Storage.read, Storage.leaf, kept.leaf?_eq proper member isLeaf, checked, bind,
    Except.bind, pure, Except.pure, holds]

/-- Nothing was ever written to an element that is not active. -/
theorem Activates.lastWritten_eq_none (activates : storage.Activates tree past)
    (proper : tree.Proper) (member : leaf ∈ tree.declared) {index : List Nat}
    (inactive : storage.isActive leaf index = false) : lastWritten past leaf index = none := by
  apply FieldKernel.lastWritten_eq_none
  rintro written among rfl rfl
  have active : storage.isActive written.leaf written.index := by
    apply (activates.isActive_iff proper member).mpr
    intro pointer last
    have within := (Lineage.mem_pointers_iff.mp (List.mem_of_getLast? last)).1
    exact ⟨written, among, within, rfl⟩
  rw [inactive] at active
  cases active

end Elements

theorem prepared_eq_ok {leaf : Node} {number : Nat} {position : List Int}
    {convert : DataType → Except Error Scalar} {value : Scalar}
    (held : storage.leaf? number = some leaf) (inside : leaf.InRange position)
    (converted : convert leaf.type = .ok value) :
    storage.prepared number position convert = .ok (leaf, position.map Int.toNat, value) := by
  simp only [prepared, Storage.leaf, held, checkIndex_eq_ok.mpr ⟨inside, rfl⟩, converted, bind,
    Except.bind, pure, Except.pure]

/-- A write succeeds if and only if its leaf is in the storage, its index is in
range, and its value can be converted to the type of the leaf. -/
theorem KeepsPointers.write_eq_ok (keeps : storage.KeepsPointers) {number : Nat}
    {position : List Int} {convert : DataType → Except Error Scalar} :
    (storage.write number position convert).1 = .ok () ↔
      ∃ leaf, storage.leaf? number = some leaf ∧ leaf.InRange position ∧
        ∃ value, convert leaf.type = .ok value := by
  constructor
  · intro succeeds
    cases ready : storage.prepared number position convert with
    | error error =>
        rw [write_of_error ready] at succeeds
        cases succeeds
    | ok found =>
        obtain ⟨leaf, index, value⟩ := found
        obtain ⟨held, checked, converted⟩ := found_of_prepared ready
        exact ⟨leaf, held, (checkIndex_eq_ok.mp checked).1, value, converted⟩
  · rintro ⟨leaf, held, inside, value, converted⟩
    exact keeps.write_ok (prepared_eq_ok held inside converted)

theorem mem_accomplished {request : Request} {written : Written}
    (among : written ∈ storage.accomplished request) :
    ∃ number position convert, request = .write number position convert ∧
      storage.prepared number position convert =
        .ok (written.leaf, written.index, written.value) := by
  cases request with
  | read number position => cases among
  | write number position convert =>
      refine ⟨number, position, convert, rfl, ?_⟩
      simp only [accomplished] at among
      split at among
      · next ready _ =>
        rw [List.mem_singleton.mp among]
        exact ready
      · cases among

/-- What was written is what some request has asked for. -/
theorem mem_history {requests : List Request} {written : Written}
    (kept : storage.Of id tree) (proper : tree.Proper)
    (among : written ∈ storage.history requests) :
    written.leaf ∈ tree.declared ∧ written.leaf.isLeaf ∧
      ∃ position convert, Request.write written.leaf.id position convert ∈ requests ∧
        written.leaf.InRange position ∧ written.index = position.map Int.toNat ∧
        convert written.leaf.type = .ok written.value := by
  induction requests generalizing storage with
  | nil => cases among
  | cons first rest hypothesis =>
      rw [history, List.mem_append] at among
      rcases among with now | later
      · obtain ⟨number, position, convert, rfl, ready⟩ := mem_accomplished now
        obtain ⟨held, checked, converted⟩ := found_of_prepared ready
        obtain ⟨member, isLeaf, rfl⟩ := kept.mem_of_leaf? proper held
        obtain ⟨inside, same⟩ := checkIndex_eq_ok.mp checked
        exact ⟨member, isLeaf, position, convert, by simp, inside, same, converted⟩
      · obtain ⟨member, isLeaf, position, convert, asked, rest⟩ :=
          hypothesis ((alike_serve first).of kept) later
        exact ⟨member, isLeaf, position, convert, List.mem_cons_of_mem _ asked, rest⟩

end Storage

end FieldKernel
