import Mathlib
import FieldKernel.Recording.Arena

/-!
# Blocks and statements under their numbers

What the changes of a recording do to each block and each statement: new ones
take the next number, and every other change concerns one block, one statement
or one of each.
-/

namespace FieldKernel

/-- A conditional with another open branch; nothing else can have one. -/
def StatementKind.marked (mark : Option Branch) : StatementKind → StatementKind
  | .branch condition onTrue onFalse _ => .branch condition onTrue onFalse mark
  | kind => kind

theorem StatementKind.marked_marked (kind : StatementKind) (mark other : Option Branch) :
    (kind.marked mark).marked other = kind.marked other := by
  cases kind <;> rfl

/-- Whether a statement is a loop. -/
def StatementKind.isLoop : StatementKind → Bool
  | .loop _ _ _ _ => true
  | _ => false

namespace Recording

variable {recording : Recording}

section Existence

theorem lt_of_owner {id owner : Nat} (owned : (recording.block id).owner? = some owner) :
    id < recording.blocks.size := by
  by_contra outside
  rw [block, Array.getElem?_eq_none (by omega)] at owned
  cases owned

theorem lt_of_parent {id parent : Nat} (held : (recording.statement id).parent? = some parent) :
    id < recording.statements.size := by
  by_contra outside
  rw [statement, Array.getElem?_eq_none (by omega)] at held
  cases held

end Existence

section Additions

@[simp] theorem statement_addBlock (owner? : Option Nat) (label : String) (id : Nat) :
    (recording.addBlock owner? label).2.statement id = recording.statement id :=
  rfl

@[simp] theorem statements_size_addBlock (owner? : Option Nat) (label : String) :
    (recording.addBlock owner? label).2.statements.size = recording.statements.size :=
  rfl

@[simp] theorem blocks_size_addBlock (owner? : Option Nat) (label : String) :
    (recording.addBlock owner? label).2.blocks.size = recording.blocks.size + 1 := by
  simp [addBlock]

theorem block_addBlock (owner? : Option Nat) (label : String) (id : Nat) :
    (recording.addBlock owner? label).2.block id =
      if id = recording.blocks.size then ⟨owner?, label, []⟩ else recording.block id := by
  simp only [addBlock, block, Array.getElem?_push]
  split <;> rfl

@[simp] theorem block_addStatement (kind : StatementKind) (id : Nat) :
    (recording.addStatement kind).2.block id = recording.block id :=
  rfl

@[simp] theorem blocks_size_addStatement (kind : StatementKind) :
    (recording.addStatement kind).2.blocks.size = recording.blocks.size :=
  rfl

@[simp] theorem statements_size_addStatement (kind : StatementKind) :
    (recording.addStatement kind).2.statements.size = recording.statements.size + 1 := by
  simp [addStatement]

theorem statement_addStatement (kind : StatementKind) (id : Nat) :
    (recording.addStatement kind).2.statement id =
      if id = recording.statements.size then ⟨kind, none, none⟩ else recording.statement id := by
  simp only [addStatement, statement, Array.getElem?_push]
  split <;> rfl

end Additions

section Changes

@[simp] theorem blocks_size_append (target member : Nat) :
    (recording.append target member).blocks.size = recording.blocks.size := by
  simp [append, modifyBlock, modifyStatement]

@[simp] theorem statements_size_append (target member : Nat) :
    (recording.append target member).statements.size = recording.statements.size := by
  simp [append, modifyBlock, modifyStatement]

theorem block_append_of_ne (member : Nat) {target id : Nat} (different : id ≠ target) :
    (recording.append target member).block id = recording.block id := by
  simp [append, modifyBlock, modifyStatement, block, Array.getElem?_modify, different.symm]

theorem block_append_self (member : Nat) {target : Nat} (known : target < recording.blocks.size) :
    (recording.append target member).block target =
      { recording.block target with
        statements := (recording.block target).statements ++ [member] } := by
  simp [append, modifyBlock, modifyStatement, block, Array.getElem_modify, known]

theorem statement_append_of_ne (target : Nat) {member id : Nat} (different : id ≠ member) :
    (recording.append target member).statement id = recording.statement id := by
  simp [append, modifyBlock, modifyStatement, statement, Array.getElem?_modify, different.symm]

theorem statement_append_self (target : Nat) {member : Nat}
    (known : member < recording.statements.size) :
    (recording.append target member).statement member =
      { recording.statement member with parent? := some target } := by
  simp [append, modifyBlock, modifyStatement, statement, Array.getElem_modify, known]

@[simp] theorem block_markOpen (owner : Nat) (mark : Option Branch) (id : Nat) :
    (recording.markOpen owner mark).block id = recording.block id :=
  rfl

@[simp] theorem blocks_size_markOpen (owner : Nat) (mark : Option Branch) :
    (recording.markOpen owner mark).blocks.size = recording.blocks.size :=
  rfl

@[simp] theorem statements_size_markOpen (owner : Nat) (mark : Option Branch) :
    (recording.markOpen owner mark).statements.size = recording.statements.size := by
  simp [markOpen, modifyKind, modifyStatement]

theorem statement_markOpen_of_ne (mark : Option Branch) {owner id : Nat} (different : id ≠ owner) :
    (recording.markOpen owner mark).statement id = recording.statement id := by
  simp [markOpen, modifyKind, modifyStatement, statement, Array.getElem?_modify, different.symm]

theorem statement_markOpen_self (mark : Option Branch) {owner : Nat}
    (known : owner < recording.statements.size) :
    (recording.markOpen owner mark).statement owner =
      { recording.statement owner with
        kind := (recording.statement owner).kind.marked mark } := by
  simp only [markOpen, modifyKind, modifyStatement, statement, Array.getElem?_modify, if_true,
    Array.getElem?_eq_getElem known, Option.map_some, Option.getD_some]
  congr 1

end Changes

/-- Every statement in a block is in no other one, and only once. -/
structure Owned (recording : Recording) (id : Nat) : Prop where
  parent {member : Nat} (among : member ∈ (recording.block id).statements) :
    (recording.statement member).parent? = some id
  nodup : (recording.block id).statements.Nodup

theorem owned_of_empty {id : Nat} (empty : (recording.block id).statements = []) :
    recording.Owned id := by
  constructor
  · intro member among
    rw [empty] at among
    cases among
  · rw [empty]
    exact List.nodup_nil

/-- A block that is not there yet has nothing in it. -/
theorem owned_of_le {id : Nat} (unused : recording.blocks.size ≤ id) : recording.Owned id := by
  apply owned_of_empty
  rw [block, Array.getElem?_eq_none unused]
  rfl

section Owned

variable {id : Nat} (owned : recording.Owned id)

include owned

theorem Owned.lt {member : Nat} (among : member ∈ (recording.block id).statements) :
    member < recording.statements.size :=
  lt_of_parent (owned.parent among)

theorem Owned.addBlock (owner? : Option Nat) (label : String) :
    (recording.addBlock owner? label).2.Owned id := by
  by_cases new : id = recording.blocks.size
  · apply owned_of_empty
    rw [block_addBlock, if_pos new]
  · have same : (recording.addBlock owner? label).2.block id = recording.block id := by
      rw [block_addBlock, if_neg new]
    constructor
    · intro member among
      rw [same] at among
      exact owned.parent among
    · rw [same]
      exact owned.nodup

theorem Owned.addStatement (kind : StatementKind) :
    (recording.addStatement kind).2.Owned id := by
  constructor
  · intro member among
    have below := owned.lt among
    rw [statement_addStatement, if_neg (by omega)]
    exact owned.parent among
  · exact owned.nodup

theorem Owned.append {target made : Nat} (known : target < recording.blocks.size)
    (below : made < recording.statements.size)
    (free : (recording.statement made).parent? = none) :
    (recording.append target made).Owned id := by
  have outside : made ∉ (recording.block id).statements := by
    intro among
    have held := owned.parent among
    rw [free] at held
    cases held
  by_cases same : id = target
  · subst same
    constructor
    · intro member among
      rw [block_append_self made known, List.mem_append, List.mem_singleton] at among
      rcases among with old | new
      · have different : member ≠ made := fun equal => outside (equal ▸ old)
        rw [statement_append_of_ne _ different]
        exact owned.parent old
      · rw [new, statement_append_self _ below]
    · rw [block_append_self made known, List.nodup_append]
      refine ⟨owned.nodup, List.nodup_singleton made, ?_⟩
      intro member old other new equal
      rw [List.mem_singleton.mp new] at equal
      exact outside (equal ▸ old)
  · constructor
    · intro member among
      rw [block_append_of_ne _ same] at among
      have different : member ≠ made := fun equal => outside (equal ▸ among)
      rw [statement_append_of_ne _ different]
      exact owned.parent among
    · rw [block_append_of_ne _ same]
      exact owned.nodup

theorem Owned.markOpen (owner : Nat) (mark : Option Branch) :
    (recording.markOpen owner mark).Owned id := by
  constructor
  · intro member among
    have held := owned.parent among
    by_cases same : member = owner
    · subst same
      rw [statement_markOpen_self _ (lt_of_parent held)]
      exact held
    · rw [statement_markOpen_of_ne _ same]
      exact held
  · exact owned.nodup

end Owned

/-- Blocks and statements have been added, and nothing that was there before
has changed. -/
structure Extends (before after : Recording) : Prop where
  blocks_le : before.blocks.size ≤ after.blocks.size
  statements_le : before.statements.size ≤ after.statements.size
  block {id : Nat} (known : id < before.blocks.size) : after.block id = before.block id
  statement {id : Nat} (known : id < before.statements.size) :
    after.statement id = before.statement id
  owned {id : Nat} (owned : before.Owned id) : after.Owned id

theorem Extends.trans {before middle after : Recording} (first : before.Extends middle)
    (second : middle.Extends after) : before.Extends after where
  blocks_le := first.blocks_le.trans second.blocks_le
  statements_le := first.statements_le.trans second.statements_le
  block known :=
    (second.block (known.trans_le first.blocks_le)).trans (first.block known)
  statement known :=
    (second.statement (known.trans_le first.statements_le)).trans (first.statement known)
  owned owned := second.owned (first.owned owned)

theorem extends_addBlock (owner? : Option Nat) (label : String) :
    recording.Extends (recording.addBlock owner? label).2 where
  blocks_le := by simp
  statements_le := by simp
  block known := by rw [block_addBlock, if_neg (by omega)]
  statement _ := rfl
  owned owned := owned.addBlock owner? label

theorem extends_addStatement (kind : StatementKind) :
    recording.Extends (recording.addStatement kind).2 where
  blocks_le := le_rfl
  statements_le := by simp
  block _ := rfl
  statement known := by rw [statement_addStatement, if_neg (by omega)]
  owned owned := owned.addStatement kind

/-- A block has got more statements at its end.  Apart from that, blocks and
statements have been added, and nothing that was there before has changed. -/
structure Grows (before after : Recording) (target : Nat) (ids : List Nat) : Prop where
  blocks_le : before.blocks.size ≤ after.blocks.size
  statements_le : before.statements.size ≤ after.statements.size
  grown : after.block target =
    { before.block target with statements := (before.block target).statements ++ ids }
  block {id : Nat} (known : id < before.blocks.size) (other : id ≠ target) :
    after.block id = before.block id
  statement {id : Nat} (known : id < before.statements.size) :
    after.statement id = before.statement id
  owned {id : Nat} (owned : before.Owned id) : after.Owned id

section Grows

variable {before middle after : Recording} {target other : Nat} {ids later : List Nat}

theorem Grows.refl (recording : Recording) (target : Nat) : recording.Grows recording target [] where
  blocks_le := le_rfl
  statements_le := le_rfl
  grown := by rw [List.append_nil]
  block _ _ := rfl
  statement _ := rfl
  owned owned := owned

/-- A new statement is put into a block. -/
theorem Extends.grows (extended : before.Extends middle) (known : target < before.blocks.size)
    (made : before.statements.size < middle.statements.size)
    (free : (middle.statement before.statements.size).parent? = none) :
    before.Grows (middle.append target before.statements.size) target [before.statements.size] where
  blocks_le := by simpa using extended.blocks_le
  statements_le := by simpa using extended.statements_le
  grown := by
    rw [block_append_self _ (known.trans_le extended.blocks_le), extended.block known]
  block inside different := by rw [block_append_of_ne _ different, extended.block inside]
  statement inside := by
    rw [statement_append_of_ne _ (by omega), extended.statement inside]
  owned owned :=
    (extended.owned owned).append (known.trans_le extended.blocks_le) made free

theorem Grows.trans (first : before.Grows middle target ids)
    (second : middle.Grows after target later) : before.Grows after target (ids ++ later) where
  blocks_le := first.blocks_le.trans second.blocks_le
  statements_le := first.statements_le.trans second.statements_le
  grown := by rw [second.grown, first.grown, List.append_assoc]
  block known different := by
    rw [second.block (known.trans_le first.blocks_le) different, first.block known different]
  statement known := by
    rw [second.statement (known.trans_le first.statements_le), first.statement known]
  owned owned := second.owned (first.owned owned)

/-- What happens to a new block does not matter to those that were there
before. -/
theorem Grows.inside (first : before.Grows middle target ids)
    (second : middle.Grows after other later) (known : target < before.blocks.size)
    (new : before.blocks.size ≤ other) : before.Grows after target ids where
  blocks_le := first.blocks_le.trans second.blocks_le
  statements_le := first.statements_le.trans second.statements_le
  grown := by
    rw [second.block (known.trans_le first.blocks_le) (by omega), first.grown]
  block inside different := by
    rw [second.block (inside.trans_le first.blocks_le) (by omega), first.block inside different]
  statement inside := by
    rw [second.statement (inside.trans_le first.statements_le), first.statement inside]
  owned owned := second.owned (first.owned owned)

/-- A statement is marked while a block grows, and the mark is taken away. -/
theorem Grows.marked {owner : Nat} {mark : Option Branch}
    (grows : (before.markOpen owner mark).Grows after target ids)
    (made : owner < before.statements.size)
    (closed : (before.statement owner).kind.marked none = (before.statement owner).kind) :
    before.Grows (after.markOpen owner none) target ids where
  blocks_le := grows.blocks_le
  statements_le := by simpa using grows.statements_le
  grown := grows.grown
  block known different := grows.block known different
  statement := by
    intro id known
    have kept := grows.statement ((statements_size_markOpen owner mark).symm ▸ known)
    by_cases same : id = owner
    · subst same
      have grown : id < after.statements.size :=
        made.trans_le (by simpa using grows.statements_le)
      rw [statement_markOpen_self none grown, kept, statement_markOpen_self mark made]
      simp only [StatementKind.marked_marked, closed]
    · rw [statement_markOpen_of_ne _ same, kept, statement_markOpen_of_ne _ same]
  owned owned := (grows.owned (owned.markOpen owner mark)).markOpen owner none

end Grows

/-- A statement with the next number is added, which is in no block yet, with
what is inside it. -/
structure Adds (before : Recording) (kind : StatementKind) (added : Nat × Recording) : Prop where
  number : added.1 = before.statements.size
  extended : before.Extends added.2
  made : before.statements.size < added.2.statements.size
  statement : added.2.statement before.statements.size = ⟨kind, none, none⟩

theorem adds_addStatement (recording : Recording) (kind : StatementKind) :
    recording.Adds kind (recording.addStatement kind) where
  number := rfl
  extended := extends_addStatement kind
  made := by simp
  statement := by rw [statement_addStatement, if_pos rfl]

/-- The branches of a new conditional have the next two numbers. -/
theorem adds_addBranch (recording : Recording) (condition : HostValue) :
    recording.Adds
      (.branch condition recording.blocks.size (recording.blocks.size + 1) none)
      (recording.addBranch condition) := by
  have blocks : recording.Extends ((recording.addBlock (some recording.statements.size)
      Branch.onTrue.label).2.addBlock (some recording.statements.size) Branch.onFalse.label).2 :=
    (extends_addBlock _ _).trans (extends_addBlock _ _)
  have second : ((recording.addBlock (some recording.statements.size)
      Branch.onTrue.label).2.addBlock (some recording.statements.size) Branch.onFalse.label).1 =
      recording.blocks.size + 1 :=
    blocks_size_addBlock _ _
  have added := adds_addStatement ((recording.addBlock (some recording.statements.size)
    Branch.onTrue.label).2.addBlock (some recording.statements.size) Branch.onFalse.label).2
    (.branch condition recording.blocks.size (recording.blocks.size + 1) none)
  rw [← second] at added ⊢
  exact ⟨rfl, blocks.trans added.extended, added.made, added.statement⟩

theorem blocks_addBranch (recording : Recording) (condition : HostValue) :
    (recording.addBranch condition).2.block recording.blocks.size =
        ⟨some recording.statements.size, Branch.onTrue.label, []⟩ ∧
      (recording.addBranch condition).2.block (recording.blocks.size + 1) =
        ⟨some recording.statements.size, Branch.onFalse.label, []⟩ ∧
      (recording.addBranch condition).2.blocks.size = recording.blocks.size + 2 := by
  simp [addBranch, block_addBlock]

/-- The body of a new loop has the next number. -/
theorem adds_addLoop (recording : Recording) (vars : List Variable) (source : LoopSource) :
    recording.Adds (.loop vars source recording.blocks.size .empty)
      (recording.addLoop vars source) := by
  have added := adds_addStatement
    (recording.addBlock (some recording.statements.size) "body").2
    (.loop vars source recording.blocks.size .empty)
  exact ⟨rfl, (extends_addBlock _ _).trans added.extended, added.made, added.statement⟩

theorem blocks_addLoop (recording : Recording) (vars : List Variable) (source : LoopSource) :
    (recording.addLoop vars source).2.block recording.blocks.size =
        ⟨some recording.statements.size, "body", []⟩ ∧
      (recording.addLoop vars source).2.blocks.size = recording.blocks.size + 1 := by
  simp [addLoop, block_addBlock]

section Adds

variable {before : Recording} {kind : StatementKind} {added : Nat × Recording} {target : Nat}

theorem Adds.grows (adds : before.Adds kind added) (known : target < before.blocks.size) :
    before.Grows (added.2.append target before.statements.size) target
      [before.statements.size] :=
  adds.extended.grows known adds.made (by rw [adds.statement])

theorem Adds.appended (adds : before.Adds kind added) :
    (added.2.append target before.statements.size).statement before.statements.size =
      ⟨kind, some target, none⟩ := by
  rw [statement_append_self _ adds.made, adds.statement]

end Adds

end Recording

end FieldKernel
