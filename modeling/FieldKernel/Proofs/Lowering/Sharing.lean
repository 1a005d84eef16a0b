import FieldKernel.Proofs.Lowering.Kernels
import FieldKernel.Proofs.Lowering.Values
import FieldKernel.Proofs.Recording.Coherence
import Mathlib.Data.Finset.Card
import Mathlib.Data.List.Forall2

/-!
# Shared expressions are lowered once

An expression that occurs in several places is one node of the table.  Whatever is
computed from it refers to that node, or to a cast of it.  The table is paid for by the
expressions that were lowered: each of them adds a node of its own and at most two casts,
and a statement that writes a value adds at most one.
-/

namespace FieldKernel

/-- A node table with the node that is kept for an expression, by the key of the
expression. -/
structure NodeTable where
  nodes : Array IRNode
  nodeOf? : Nat → Option Nat

namespace NodeTable

/-- A node is another one, or is reached from it by casts only. -/
inductive Casts (table : NodeTable) (source : Nat) : Nat → Prop where
  | same : Casts table source source
  | cast {node result : Nat} {type : DataType} (casts : Casts table source node)
      (found : table.nodes[result]? = some ⟨result, .cast node, type⟩) :
      Casts table source result

/-- A node gives the value of an expression: it is the node that is kept for it, or a cast
of that node. -/
def Serves (table : NodeTable) (expr : Expr) (id : Nat) : Prop :=
  ∃ node, table.nodeOf? expr.key = some node ∧ table.Casts node id

/-- A node is computed from the nodes that are kept for the parts of an expression. -/
def Joins (table : NodeTable) (expr : Expr) (id : Nat) : Prop :=
  ∃ op type, table.nodes[id]? = some ⟨id, op, type⟩ ∧
    List.Forall₂ table.Serves expr.parts op.inputs

/-- Nodes are kept, and so is which of them is that of an expression. -/
structure Grows (early late : NodeTable) : Prop where
  nodes {id : Nat} {node : IRNode} (found : early.nodes[id]? = some node) :
    late.nodes[id]? = some node
  nodeOf? {key id : Nat} (kept : early.nodeOf? key = some id) : late.nodeOf? key = some id

variable {early middle late : NodeTable}

theorem Grows.refl (table : NodeTable) : table.Grows table :=
  ⟨id, id⟩

theorem Grows.trans (first : early.Grows middle) (second : middle.Grows late) :
    early.Grows late :=
  ⟨fun found => second.nodes (first.nodes found), fun kept => second.nodeOf? (first.nodeOf? kept)⟩

theorem Casts.mono (grows : early.Grows late) {source result : Nat}
    (casts : early.Casts source result) : late.Casts source result := by
  induction casts with
  | same => exact .same
  | cast _ found hypothesis => exact .cast hypothesis (grows.nodes found)

theorem Serves.mono (grows : early.Grows late) {expr : Expr} {id : Nat}
    (serves : early.Serves expr id) : late.Serves expr id := by
  obtain ⟨node, kept, casts⟩ := serves
  exact ⟨node, grows.nodeOf? kept, casts.mono grows⟩

theorem Joins.mono (grows : early.Grows late) {expr : Expr} {id : Nat}
    (joins : early.Joins expr id) : late.Joins expr id := by
  obtain ⟨op, type, found, serves⟩ := joins
  exact ⟨op, type, grows.nodes found, serves.imp fun _ _ => Serves.mono grows⟩

theorem Joins.lt {table : NodeTable} {expr : Expr} {id : Nat} (joins : table.Joins expr id) :
    id < table.nodes.size := by
  obtain ⟨op, type, found, _⟩ := joins
  exact (Array.getElem?_eq_some_iff.mp found).1

/-- Whatever has its value given has a node. -/
theorem exists_node {table : NodeTable} {exprs : List Expr} {ids : List Nat}
    (serves : List.Forall₂ table.Serves exprs ids) {expr : Expr} (member : expr ∈ exprs) :
    ∃ node, table.nodeOf? expr.key = some node := by
  obtain ⟨place, inside, rfl⟩ := List.getElem_of_mem member
  obtain ⟨node, kept, _⟩ := serves.get inside (serves.length_eq ▸ inside)
  exact ⟨node, kept⟩

theorem Joins.exists_part {table : NodeTable} {expr part : Expr} {id : Nat}
    (joins : table.Joins expr id) (below : part ∈ expr.parts) :
    ∃ node, table.nodeOf? part.key = some node := by
  obtain ⟨op, type, _, serves⟩ := joins
  exact exists_node serves below

end NodeTable

/-- An argument is loaded from below the number of arguments of its kernel. -/
def Expr.Accepted (argTypes : List DataType) : Expr → Prop
  | .argument _ position _ => position < argTypes.length
  | _ => True

namespace Lowering

/-- The table in a state of lowering, with the nodes of what was lowered so far. -/
def table (state : Lowering) : NodeTable :=
  ⟨state.nodes, fun key => state.lowered[key]?⟩

/-- Each expression that was lowered was accepted, and has a node of its own, which is computed
from the nodes of its parts. -/
structure Shared (argTypes : List DataType) (occurs : Expr → Prop) (state : Lowering) :
    Prop where
  accepted {expr : Expr} {id : Nat} (known : occurs expr)
    (cached : state.lowered[expr.key]? = some id) : expr.Accepted argTypes
  joins {expr : Expr} {id : Nat} (known : occurs expr)
    (cached : state.lowered[expr.key]? = some id) : state.table.Joins expr id
  distinct {expr other : Expr} {id : Nat} (known : occurs expr) (knownOther : occurs other)
    (cached : state.lowered[expr.key]? = some id)
    (cachedOther : state.lowered[other.key]? = some id) : expr = other

/-- Between two states nothing was lowered but some values.  Each of these pays for three
nodes, and `extra` ones are left to be paid for. -/
structure Spends (values : List Expr) (extra : Nat) (before after : Lowering) : Prop where
  grows : before.table.Grows after.table
  among {key id : Nat} (cached : after.lowered[key]? = some id) :
    before.lowered[key]? = some id ∨ ∃ value ∈ values, value.key = key
  size : after.nodes.size + 3 * before.lowered.size ≤
    before.nodes.size + 3 * after.lowered.size + extra

/-- From one state to another some values were taken, and nodes give them. -/
structure Takes (argTypes : List DataType) (occurs : Expr → Prop) (taken : List Expr)
    (extra : Nat) (before after : Lowering) (ids : List Nat) : Prop where
  known : ∀ value ∈ taken, occurs value
  shared : after.Shared argTypes occurs
  spends : Spends (Expr.allValues taken) extra before after
  serves : List.Forall₂ after.table.Serves taken ids

variable {argTypes : List DataType} {occurs : Expr → Prop} {taken more : List Expr}
  {extra extraOn : Nat} {before middle after : Lowering} {ids idsOn : List Nat}

/-- A step that neither adds a node nor keeps one takes nothing. -/
theorem Shared.still (shared : before.Shared argTypes occurs) (nodes : after.nodes = before.nodes)
    (lowered : after.lowered = before.lowered) : Takes argTypes occurs [] 0 before after [] := by
  have same : after.table = before.table := by simp only [table, nodes, lowered]
  refine ⟨by simp, ⟨?_, ?_, ?_⟩, ⟨?_, ?_, ?_⟩, .nil⟩
  · rw [lowered]
    exact shared.accepted
  · intro expr id known cached
    rw [same]
    exact shared.joins known (lowered ▸ cached)
  · rw [lowered]
    exact shared.distinct
  · rw [same]
    exact .refl _
  · intro key id cached
    exact .inl (lowered ▸ cached)
  · rw [nodes, lowered]
    omega

theorem Shared.refl (shared : before.Shared argTypes occurs) :
    Takes argTypes occurs [] 0 before before [] :=
  shared.still rfl rfl

/-- What is taken later comes after what was taken before. -/
theorem Takes.trans (first : Takes argTypes occurs taken extra before middle ids)
    (second : Takes argTypes occurs more extraOn middle after idsOn) :
    Takes argTypes occurs (taken ++ more) (extra + extraOn) before after (ids ++ idsOn) := by
  refine ⟨?_, second.shared, ⟨first.spends.grows.trans second.spends.grows, ?_, ?_⟩, ?_⟩
  · intro value member
    exact (List.mem_append.mp member).elim (first.known value) (second.known value)
  · intro key id cached
    rw [Expr.allValues_append]
    rcases second.spends.among cached with cached | ⟨value, member, same⟩
    · rcases first.spends.among cached with cached | ⟨value, member, same⟩
      · exact .inl cached
      · exact .inr ⟨value, List.mem_append_left _ member, same⟩
    · exact .inr ⟨value, List.mem_append_right _ member, same⟩
  · have sizes := first.spends.size
    have sizesOn := second.spends.size
    omega
  · have serves := first.serves.imp fun _ _ => NodeTable.Serves.mono second.spends.grows
    exact List.rel_append serves second.serves

theorem Takes.mono (takes : Takes argTypes occurs taken extra before after ids)
    (bound : extra ≤ extraOn) :
    Takes argTypes occurs taken extraOn before after ids := by
  have size := takes.spends.size
  exact ⟨takes.known, takes.shared, ⟨takes.spends.grows, takes.spends.among, by omega⟩,
    takes.serves⟩

/-- The table grows by a node at its end. -/
theorem grows_pushed (state : Lowering) (op : NodeOp) (type : DataType) :
    state.table.Grows (Lower.pushed state op type).table := by
  refine ⟨?_, id⟩
  intro id node found
  have found : state.nodes[id]? = some node := found
  have inside := (Array.getElem?_eq_some_iff.mp found).1
  simp only [table, Lower.pushed, Array.getElem?_push, Nat.ne_of_lt inside, if_false, found]

theorem Shared.pushed (shared : before.Shared argTypes occurs) (op : NodeOp) (type : DataType) :
    (Lower.pushed before op type).Shared argTypes occurs :=
  ⟨shared.accepted, fun known cached => (shared.joins known cached).mono (grows_pushed ..),
    shared.distinct⟩

/-- One of the nodes that were taken is brought to a type, by at most one node more. -/
theorem Takes.casts (front : List Nat) {back : List Nat} {node result : Nat} {type : DataType}
    (takes : Takes argTypes occurs taken extra before middle (front ++ node :: back))
    (cast : (Lower.castTo node type).Yields middle result after) :
    Takes argTypes occurs taken (extra + 1) before after (front ++ result :: back) := by
  rcases Lower.yields_castTo.mp cast with ⟨_, rfl, rfl⟩ | ⟨_, rfl, rfl⟩
  · exact takes.mono (Nat.le_succ _)
  · have grows := grows_pushed middle (.cast node) type
    refine ⟨takes.known, takes.shared.pushed _ _,
      ⟨takes.spends.grows.trans grows, takes.spends.among, ?_⟩, ?_⟩
    · have size := takes.spends.size
      simp only [Lower.pushed, Array.size_push]
      omega
    · have serves := takes.serves.imp fun _ _ => NodeTable.Serves.mono grows
      have first := List.forall₂_take_append taken front (node :: back) serves
      obtain ⟨value, rest, ⟨kept, cached, casts⟩, later, split⟩ :=
        List.forall₂_cons_right_iff.mp
          (List.forall₂_drop_append taken front (node :: back) serves)
      rw [← List.take_append_drop front.length taken, split]
      exact List.rel_append first
        (.cons ⟨kept, cached, casts.cast (Lowering.found_pushed ..)⟩ later)

/-- An expression that had no node is kept with a new one at the end of the table. -/
structure Keeps (expr : Expr) (op : NodeOp) (before after : Lowering) : Prop where
  vacant : before.lowered[expr.key]? = none
  pushed : ∃ type, after.nodes = before.nodes.push ⟨before.nodes.size, op, type⟩
  lowered : after.lowered = before.lowered.insert expr.key before.nodes.size

namespace Keeps

variable {expr : Expr} {op : NodeOp}

theorem found (keeps : Keeps expr op before after) :
    ∃ type, after.nodes[before.nodes.size]? = some ⟨before.nodes.size, op, type⟩ := by
  obtain ⟨type, pushed⟩ := keeps.pushed
  exact ⟨type, by simp [pushed]⟩

theorem grows (keeps : Keeps expr op before after) : before.table.Grows after.table := by
  obtain ⟨type, pushed⟩ := keeps.pushed
  refine ⟨fun found => ?_, fun {key id} cached => ?_⟩
  · have added := (grows_pushed before op type).nodes found
    simpa only [table, Lower.pushed, pushed] using added
  · have cached : before.lowered[key]? = some id := cached
    have different : expr.key ≠ key := by
      rintro rfl
      simp [keeps.vacant] at cached
    simp [table, keeps.lowered, Std.TreeMap.getElem?_insert, different, cached]

theorem cached (keeps : Keeps expr op before after) {key id : Nat}
    (cached : after.lowered[key]? = some id) :
    (expr.key = key ∧ before.nodes.size = id) ∨ before.lowered[key]? = some id := by
  simp only [keeps.lowered, Std.TreeMap.getElem?_insert, compare_eq_iff_eq] at cached
  split at cached
  · next same => exact .inl ⟨same, Option.some.inj cached⟩
  · exact .inr cached

theorem nodes_size (keeps : Keeps expr op before after) :
    after.nodes.size = before.nodes.size + 1 := by
  obtain ⟨type, pushed⟩ := keeps.pushed
  simp [pushed]

theorem lowered_size (keeps : Keeps expr op before after) :
    after.lowered.size = before.lowered.size + 1 := by
  have absent : expr.key ∉ before.lowered := by simpa using keeps.vacant
  simp [keeps.lowered, Std.TreeMap.size_insert, absent]

/-- The new node is that of the expression alone. -/
theorem shared (keeps : Keeps expr op before after) (occurring : Occurring occurs)
    (shared : before.Shared argTypes occurs) (known : occurs expr)
    (accepted : expr.Accepted argTypes)
    (serves : List.Forall₂ before.table.Serves expr.parts op.inputs) :
    after.Shared argTypes occurs := by
  refine ⟨?_, ?_, ?_⟩
  · intro other id knownOther cached
    rcases keeps.cached cached with ⟨same, _⟩ | earlier
    · cases occurring.ofKey known knownOther same
      exact accepted
    · exact shared.accepted knownOther earlier
  · intro other id knownOther cached
    rcases keeps.cached cached with ⟨same, rfl⟩ | earlier
    · cases occurring.ofKey known knownOther same
      obtain ⟨type, found⟩ := keeps.found
      exact ⟨op, type, found, serves.imp fun _ _ => NodeTable.Serves.mono keeps.grows⟩
    · exact (shared.joins knownOther earlier).mono keeps.grows
  · intro one other id knownOne knownOther cachedOne cachedOther
    rcases keeps.cached cachedOne with ⟨sameOne, rfl⟩ | earlierOne
    · rcases keeps.cached cachedOther with ⟨sameOther, _⟩ | earlierOther
      · exact occurring.ofKey knownOne knownOther (sameOne.symm.trans sameOther)
      · exact absurd (shared.joins knownOther earlierOther).lt (Nat.lt_irrefl _)
    · rcases keeps.cached cachedOther with ⟨_, rfl⟩ | earlierOther
      · exact absurd (shared.joins knownOne earlierOne).lt (Nat.lt_irrefl _)
      · exact shared.distinct knownOne knownOther earlierOne earlierOther

end Keeps

/-- What an expression is computed from comes to be known without the expression. -/
theorem Takes.vacant (occurring : Occurring occurs) {expr : Expr} (known : occurs expr)
    (missing : before.lowered[expr.key]? = none)
    (takes : Takes argTypes occurs expr.parts extra before after ids) :
    after.lowered[expr.key]? = none := by
  by_contra present
  obtain ⟨id, cached⟩ := Option.ne_none_iff_exists'.mp present
  rcases takes.spends.among cached with cached | ⟨value, member, same⟩
  · simp [missing] at cached
  · have knownValue := occurring.allValues (fun part => occurring.part known) member
    rw [occurring.ofKey knownValue known same] at member
    exact expr.not_mem_allValues_parts member

/-- An expression is taken when its parts were, for a node of its own and two casts. -/
theorem Takes.keep (occurring : Occurring occurs) {expr : Expr} {op : NodeOp} (known : occurs expr)
    (accepted : expr.Accepted argTypes)
    (takes : Takes argTypes occurs expr.parts 2 before middle op.inputs)
    (keeps : Keeps expr op middle after) :
    Takes argTypes occurs [expr] 0 before after [middle.nodes.size] := by
  refine ⟨by simpa using known, keeps.shared occurring takes.shared known accepted takes.serves,
    ⟨takes.spends.grows.trans keeps.grows, ?_, ?_⟩, ?_⟩
  · intro key id cached
    rcases keeps.cached cached with ⟨same, _⟩ | cached
    · exact .inr ⟨expr, by simp [Expr.allValues, Expr.self_mem_values], same⟩
    · rcases takes.spends.among cached with cached | ⟨value, member, same⟩
      · exact .inl cached
      · exact .inr ⟨value, by simp [Expr.allValues, Expr.values_eq, member], same⟩
  · have size := takes.spends.size
    rw [keeps.nodes_size, keeps.lowered_size]
    omega
  · exact .cons ⟨middle.nodes.size, by simp [table, keeps.lowered], .same⟩ .nil

end Lowering

namespace Lower

open Lowering (Shared Takes Keeps)

variable {occurs : Expr → Prop} {context : LoweringContext} {state after : Lowering}

/-- An expression is taken once: if it is known already, its node is taken again. -/
theorem once_takes (occurring : Occurring occurs)
    (shared : state.Shared context.argTypes occurs) {expr : Expr} {lower : Lower Nat}
    {result : Nat} (known : occurs expr)
    (success : (once expr lower).Yields state result after)
    (lowers : ∀ between, lower.Yields state result between → expr.Accepted context.argTypes ∧
      ∃ middle op type, Takes context.argTypes occurs expr.parts 2 state middle op.inputs ∧
        middle.nodes.size = result ∧ pushed middle op type = between) :
    Takes context.argTypes occurs [expr] 0 state after [result] := by
  rcases yields_once.mp success with
    ⟨cached, rfl⟩ | ⟨missing, between, slots, lowered, resolved, rfl⟩
  · refine ⟨by simpa using known, shared, ⟨.refl _, fun cached => .inl cached, le_rfl⟩, ?_⟩
    exact .cons ⟨result, cached, .same⟩ .nil
  · obtain ⟨accepted, middle, op, type, takes, rfl, rfl⟩ := lowers between lowered
    exact takes.keep occurring known accepted
      ⟨takes.vacant occurring known missing, ⟨type, rfl⟩, rfl⟩

/-- What is added at once has no parts. -/
theorem add_takes (shared : state.Shared context.argTypes occurs) {expr : Expr} {op : NodeOp}
    {type : DataType} {result : Nat} (leaf : expr.parts = []) (single : op.inputs = [])
    (added : (add op type).Yields state result after) :
    ∃ middle op type, Takes context.argTypes occurs expr.parts 2 state middle op.inputs ∧
      middle.nodes.size = result ∧ pushed middle op type = after := by
  obtain ⟨rfl, rfl⟩ := yields_add.mp added
  refine ⟨state, op, type, ?_, rfl, rfl⟩
  rw [leaf, single]
  exact shared.refl.mono (by omega)

theorem leafOf_takes (shared : state.Shared context.argTypes occurs) {field : Field}
    {site? : Option Location} {leaf : Node}
    (success : (leafOf context field site?).Yields state leaf after) :
    Takes context.argTypes occurs [] 0 state after [] := by
  obtain ⟨_, _, _, rfl⟩ := yields_leafOf.mp success
  exact shared.still rfl rfl

mutual

/-- An expression comes to be known with all that it is computed from. -/
theorem expr_takes (occurring : Occurring occurs) (expr : Expr) {state after : Lowering}
    {result : Nat} (known : occurs expr) (shared : state.Shared context.argTypes occurs)
    (success : (Lower.expr context expr).Yields state result after) :
    Takes context.argTypes occurs [expr] 0 state after [result] := by
  cases expr with
  | identifier var =>
      rw [Lower.expr] at success
      refine once_takes occurring shared known success ?_
      intro between lowered
      simp only [yields_bind, yields_varType?] at lowered
      obtain ⟨_, _, ⟨rfl, rfl⟩, lowered⟩ := lowered
      split at lowered
      · exact absurd lowered yields_throw
      · split at lowered
        · simp at lowered
        · exact ⟨trivial, add_takes shared rfl rfl lowered⟩
  | literal key value type =>
      rw [Lower.expr] at success
      refine once_takes occurring shared known success ?_
      intro between lowered
      exact ⟨trivial, add_takes shared rfl rfl lowered⟩
  | argument key position type =>
      rw [Lower.expr] at success
      refine once_takes occurring shared known success ?_
      intro between lowered
      split at lowered
      · simp at lowered
      · next inside => exact ⟨not_le.mp inside, add_takes shared rfl rfl lowered⟩
  | field field =>
      rw [Lower.expr] at success
      refine once_takes occurring shared known success ?_
      intro between lowered
      exact absurd lowered yields_throw
  | binary key op left right =>
      rw [Lower.expr] at success
      refine once_takes occurring shared known success ?_
      intro between lowered
      simp only [yields_bind] at lowered
      obtain ⟨leftNode, first, leftLowered, rightNode, second, rightLowered, lowered⟩ := lowered
      have takesLeft :=
        expr_takes occurring left (occurring.part known (by simp [Expr.parts])) shared leftLowered
      have takesRight :=
        expr_takes occurring right (occurring.part known (by simp [Expr.parts]))
          takesLeft.shared rightLowered
      obtain ⟨_, leftBrought, rightBrought, third, fourth, leftCast, rightCast, size, pushes⟩ :=
        binary_yields lowered
      have brought := (takesLeft.trans takesRight).casts [] leftCast
      exact ⟨trivial, fourth, .binary op leftBrought rightBrought, _,
        brought.casts [leftBrought] rightCast, size, pushes⟩
  | unary key op operand =>
      rw [Lower.expr] at success
      refine once_takes occurring shared known success ?_
      intro between lowered
      simp only [yields_bind] at lowered
      obtain ⟨node, first, operandLowered, lowered⟩ := lowered
      have takes :=
        expr_takes occurring operand (occurring.part known (by simp [Expr.parts])) shared
          operandLowered
      obtain ⟨_, widened, floated, second, third, widens, floats, size, pushes⟩ :=
        unary_yields lowered
      have brought := takes.casts [] widens
      exact ⟨trivial, third, .unary op floated, _, brought.casts [] floats, size, pushes⟩
  | cast key operand type =>
      rw [Lower.expr] at success
      refine once_takes occurring shared known success ?_
      intro between lowered
      simp only [yields_bind] at lowered
      obtain ⟨node, first, operandLowered, lowered⟩ := lowered
      obtain ⟨size, pushes⟩ := yields_add.mp lowered
      have takes :=
        expr_takes occurring operand (occurring.part known (by simp [Expr.parts])) shared
          operandLowered
      exact ⟨trivial, first, .cast node, _, takes.mono (by omega), size, pushes⟩
  | element key field indices | load key elementKey field indices =>
      rw [Lower.expr] at success
      refine once_takes occurring shared known success ?_
      intro between lowered
      simp only [yields_bind, yields_leafAt] at lowered
      obtain ⟨leaf, first, ⟨found, _⟩, nodes, second, indicesLowered, lowered⟩ := lowered
      obtain ⟨size, pushes⟩ := yields_add.mp lowered
      have looks := leafOf_takes shared found
      have takes :=
        indexNodes_takes occurring indices (fun index => occurring.part known) looks.shared
          indicesLowered
      exact ⟨trivial, second, .load leaf.id nodes, _, (looks.trans takes).mono (by omega), size,
        pushes⟩

theorem indexNodes_takes (occurring : Occurring occurs) (indices : List Expr)
    {state after : Lowering} {result : List Nat} (known : ∀ index ∈ indices, occurs index)
    (shared : state.Shared context.argTypes occurs)
    (success : (indexNodes context indices).Yields state result after) :
    Takes context.argTypes occurs indices 0 state after result := by
  cases indices with
  | nil =>
      rw [indexNodes] at success
      obtain ⟨rfl, rfl⟩ := yields_pure.mp success
      exact shared.refl
  | cons index rest =>
      rw [indexNodes] at success
      simp only [yields_bind, yields_checkIndex, yields_pure] at success
      obtain ⟨node, first, lowered, _, _, ⟨_, rfl⟩, nodes, _, restLowered, rfl, rfl⟩ := success
      have takes := expr_takes occurring index (known index (by simp)) shared lowered
      exact takes.trans
        (indexNodes_takes occurring rest (fun other member => known other (by simp [member]))
          takes.shared restLowered)

end

/-- Loop variables are declared without taking anything. -/
theorem declareLoopVariables_takes (vars : List Variable) {state : Lowering} {result : Unit}
    (shared : state.Shared context.argTypes occurs)
    (success : (declareLoopVariables vars).Yields state result after) :
    Takes context.argTypes occurs [] 0 state after [] := by
  induction vars generalizing state with
  | nil =>
      obtain ⟨rfl, rfl⟩ := yields_pure.mp success
      exact shared.refl
  | cons var rest hypothesis =>
      rw [declareLoopVariables_cons] at success
      simp only [yields_bind, yields_declare, yields_resolve] at success
      obtain ⟨_, declared, rfl, _, resolved, ⟨slots, _, rfl⟩, success⟩ := success
      have declares : Takes context.argTypes occurs [] 0 state
          { state with
            varTypes := state.varTypes.insert var.identifier.id .i32
            slots := slots } [] :=
        shared.still rfl rfl
      exact declares.trans (hypothesis declares.shared success)

/-- What is computed for a statement is an expression, which is taken. -/
theorem value_takes (occurring : Occurring occurs) (shared : state.Shared context.argTypes occurs)
    {given : HostValue} {result : Nat} (known : ∀ root ∈ given.roots, occurs root)
    (success : (value context given).Yields state result after) :
    Takes context.argTypes occurs given.roots 0 state after [result] := by
  cases given with
  | expr expr =>
      exact expr_takes occurring expr (known expr (by simp [HostValue.roots])) shared success
  | _ => simp [value] at success

/-- The indices of an element are taken. -/
theorem access_takes (occurring : Occurring occurs) (shared : state.Shared context.argTypes occurs)
    {place : Element} {leaf : Node} {between : Lowering} {nodes : List Nat}
    (known : occurs (.ofElement place))
    (found : (leafAt context place.key place.field place.indices.length).Yields state leaf
      between)
    (lowered : (indexNodes context place.indices).Yields between nodes after) :
    Takes context.argTypes occurs place.indices 0 state after nodes := by
  have looks := leafOf_takes shared (yields_leafAt.mp found).1
  have takes :=
    indexNodes_takes occurring place.indices (fun index => occurring.part known) looks.shared
      lowered
  exact looks.trans takes

/-- A store takes the indices and the value, which may be cast. -/
theorem store_takes (occurring : Occurring occurs) (shared : state.Shared context.argTypes occurs)
    (place : Element) {stored : Expr} {op : Op} (knownPlace : occurs (.ofElement place))
    (knownValue : occurs stored)
    (success : (store context place stored).Yields state op after) :
    Takes context.argTypes occurs (place.indices ++ [stored]) 1 state after op.taken := by
  simp only [store, yields_bind, yields_resolve, yields_pure] at success
  obtain ⟨leaf, first, found, nodes, second, indices, _, _, ⟨slots, _, rfl⟩, node, third,
    lowered, result, _, cast, rfl, rfl⟩ := success
  have accesses := access_takes occurring shared knownPlace found indices
  have fills : Takes context.argTypes occurs [] 0 second { second with slots := slots } [] :=
    accesses.shared.still rfl rfl
  have takes := expr_takes occurring stored knownValue fills.shared lowered
  exact (accesses.trans (fills.trans takes)).casts nodes cast

/-- An assignment takes the value, which may be cast. -/
theorem assign_takes (occurring : Occurring occurs) (shared : state.Shared context.argTypes occurs)
    {site? : Option Location} {var : Variable} {assigned : Expr} {op : Op}
    (known : occurs assigned)
    (success : (assign context site? var assigned).Yields state op after) :
    Takes context.argTypes occurs [assigned] 1 state after op.taken := by
  obtain ⟨declared, node, first, type, slots, result, _, lowered, _, _, cast, rfl⟩ :=
    assign_yields success
  have takes := expr_takes occurring assigned known shared lowered
  have fills : Takes context.argTypes occurs [] 0 first
      { first with
        varTypes :=
          if declared = .unknown then first.varTypes.insert var.identifier.id type
          else first.varTypes
        slots := slots } [] :=
    takes.shared.still rfl rfl
  exact (takes.trans fills).casts [] cast

mutual

/-- A statement takes its values, and the operation it is lowered to takes their nodes. -/
theorem stmt_takes (occurring : Occurring occurs) (statement : Stmt) {state after : Lowering}
    {op : Op} (known : ∀ root ∈ statement.roots, occurs root)
    (shared : state.Shared context.argTypes occurs)
    (success : (stmt context statement).Yields state op after) :
    Takes context.argTypes occurs statement.taken statement.writes state after op.taken := by
  cases statement with
  | alloca site? identifier type =>
      simp only [stmt, yields_bind, yields_declare, yields_pure] at success
      obtain ⟨_, _, rfl, rfl, rfl⟩ := success
      exact shared.still rfl rfl
  | assign site? target value =>
      have knownValue := known value (by simp [Stmt.roots])
      cases target with
      | identifier var =>
          rw [stmt] at success
          exact assign_takes occurring shared knownValue success
      | element key field indices =>
          rw [stmt] at success
          exact store_takes occurring shared ⟨key, field, indices⟩
            (known _ (by simp [Stmt.roots, Expr.ofElement])) knownValue success
      | _ => simp [stmt] at success
  | load site? place =>
      simp only [stmt, yields_bind, yields_pure] at success
      obtain ⟨leaf, first, found, nodes, second, lowered, rfl, rfl⟩ := success
      exact access_takes occurring shared (known _ (by simp [Stmt.roots])) found lowered
  | store site? place value =>
      rw [stmt] at success
      exact store_takes occurring shared place (known _ (by simp [Stmt.roots]))
        (known _ (by simp [Stmt.roots])) success
  | print site? printed label =>
      obtain ⟨node, lowered, rfl⟩ := print_yields success
      exact value_takes occurring shared known lowered
  | branch site? condition onTrue onFalse =>
      simp only [stmt, yields_bind, yields_pure] at success
      obtain ⟨node, first, lowered, trueOps, second, lowersTrue, falseOps, third, lowersFalse, rfl,
        rfl⟩ := success
      have takes :=
        value_takes occurring shared (fun root member => known root (by simp [Stmt.roots, member]))
          lowered
      have takesTrue :=
        block_takes occurring onTrue (fun root member => known root (by simp [Stmt.roots, member]))
          takes.shared lowersTrue
      have takesFalse :=
        block_takes occurring onFalse
          (fun root member => known root (by simp [Stmt.roots, member])) takesTrue.shared
          lowersFalse
      exact ((takes.trans takesTrue).trans takesFalse).mono (by simp [Stmt.writes])
  | loop site? vars source schedule body =>
      have knownBody : ∀ root ∈ Stmt.blockRoots body, occurs root :=
        fun root member => known root (by simp [Stmt.roots, member])
      cases source with
      | range first last =>
          simp only [stmt, yields_bind, yields_checkBound, yields_pure] at success
          obtain ⟨firstNode, between, lowersFirst, lastNode, second, lowersLast, _, _,
            ⟨_, rfl⟩, _, _, ⟨_, rfl⟩, _, third, declares, ops, _, lowers, rfl, rfl⟩ := success
          have takesFirst :=
            expr_takes occurring first (known _ (by simp [Stmt.roots, LoopSource.roots])) shared
              lowersFirst
          have takesLast :=
            expr_takes occurring last (known _ (by simp [Stmt.roots, LoopSource.roots]))
              takesFirst.shared lowersLast
          have takesVars := declareLoopVariables_takes vars takesLast.shared declares
          have takesBody := block_takes occurring body knownBody takesVars.shared lowers
          exact ((takesFirst.trans takesLast).trans (takesVars.trans takesBody)).mono
            (by simp [Stmt.writes])
      | elements field =>
          simp only [stmt, yields_bind, yields_checkArity, yields_pure] at success
          obtain ⟨leaf, first, found, _, _, ⟨_, rfl⟩, _, second, declares, ops, _, lowers, rfl,
            rfl⟩ := success
          have looks := leafOf_takes shared found
          have takesVars := declareLoopVariables_takes vars looks.shared declares
          have takesBody := block_takes occurring body knownBody takesVars.shared lowers
          exact (looks.trans (takesVars.trans takesBody)).mono (by simp [Stmt.writes])
  | bare site? => simp [stmt] at success
  | endless => simp [stmt] at success

theorem block_takes (occurring : Occurring occurs) (body : List Stmt) {state after : Lowering}
    {ops : List Op} (known : ∀ root ∈ Stmt.blockRoots body, occurs root)
    (shared : state.Shared context.argTypes occurs)
    (success : (block context body).Yields state ops after) :
    Takes context.argTypes occurs (Stmt.blockTaken body) (Stmt.blockWrites body) state after
      (Op.blockTaken ops) := by
  cases body with
  | nil =>
      rw [block] at success
      obtain ⟨rfl, rfl⟩ := yields_pure.mp success
      exact shared.refl
  | cons statement rest =>
      simp only [block, yields_bind, yields_pure] at success
      obtain ⟨op, first, lowered, ops, second, restLowered, rfl, rfl⟩ := success
      have takes :=
        stmt_takes occurring statement
          (fun root member => known root (by simp [Stmt.blockRoots, member])) shared lowered
      exact takes.trans
        (block_takes occurring rest
          (fun root member => known root (by simp [Stmt.blockRoots, member])) takes.shared
          restLowered)

end

end Lower

namespace Lowering

variable {argTypes : List DataType} {occurs : Expr → Prop} {taken : List Expr} {extra : Nat}
  {state final : Lowering} {slots : TypeSlots} {ids : List Nat}

theorem start_shared (argTypes : List DataType) (occurs : Expr → Prop) (slots : TypeSlots) :
    (start slots).Shared argTypes occurs :=
  ⟨fun _ cached => by simp [start] at cached, fun _ cached => by simp [start] at cached,
    fun _ _ cached => by simp [start] at cached⟩

/-- All values that something taken is computed from are known in the end. -/
theorem Takes.exists_node (occurring : Occurring occurs)
    (takes : Takes argTypes occurs taken extra state final ids) {value : Expr}
    (member : value ∈ Expr.allValues taken) : ∃ id, final.lowered[value.key]? = some id := by
  obtain ⟨expr, among, member⟩ := Expr.mem_allValues.mp member
  refine (Expr.of_mem_values (fun value => occurs value ∧ ∃ id, final.lowered[value.key]? = some id)
    ?_ expr ⟨takes.known _ among, NodeTable.exists_node takes.serves among⟩ member).2
  intro whole part ⟨known, id, cached⟩ below
  exact ⟨occurring.part known below, (takes.shared.joins known cached).exists_part below⟩

/-- Nothing is known in the end but the values of what was taken. -/
theorem Takes.lowered_size (takes : Takes argTypes occurs taken extra (start slots) final ids) :
    final.lowered.size ≤ ((Expr.allValues taken).map Expr.key).toFinset.card := by
  have different : final.lowered.keys.Nodup := final.lowered.nodup_keys
  rw [← Std.TreeMap.length_keys, ← List.toFinset_card_of_nodup different]
  refine Finset.card_le_card fun key listed => ?_
  rw [List.mem_toFinset, Std.TreeMap.mem_keys] at listed
  have cached : final.lowered[key]? = some final.lowered[key] := by simp [listed]
  rcases takes.spends.among cached with cached | ⟨value, member, rfl⟩
  · simp [start] at cached
  · simpa using ⟨value, member, rfl⟩

end Lowering

namespace KernelIR

/-- How the nodes of a lowered kernel are shared by the expressions of the body it was
lowered from.  A node is found by the key of an expression, so an expression has the same
one wherever it occurs. -/
structure Shares (ir : KernelIR) (context : LoweringContext) (body : List Stmt)
    (nodeOf? : Nat → Option Nat) : Prop where
  /-- Just the expressions whose values are needed have nodes. -/
  kept (key : Nat) : (nodeOf? key).isSome ↔
    ∃ value ∈ Stmt.blockValues body, value.key = key
  distinct {value other : Expr} {id : Nat} (member : value ∈ Stmt.blockValues body)
    (memberOther : other ∈ Stmt.blockValues body)
    (found : nodeOf? value.key = some id) (foundOther : nodeOf? other.key = some id) :
    value = other
  computes {value : Expr} {id : Nat} (member : value ∈ Stmt.blockValues body)
    (found : nodeOf? value.key = some id) :
    (ir.code (.block context.leafOf? .none body) context.leafOf?).Computes value id
  /-- The node of an expression is computed from the nodes of its parts. -/
  joins {value : Expr} {id : Nat} (member : value ∈ Stmt.blockValues body)
    (found : nodeOf? value.key = some id) : (NodeTable.mk ir.nodes nodeOf?).Joins value id
  /-- The operations take the nodes of the expressions that the statements take. -/
  serves : List.Forall₂ (NodeTable.mk ir.nodes nodeOf?).Serves (Stmt.blockTaken body)
    (Op.blockTaken ir.body)
  size : ir.nodes.size ≤
    3 * ((Stmt.blockValues body).map Expr.key).toFinset.card +
      Stmt.blockWrites body

section Body

variable {name : String} {target : ArchSetting} {context : LoweringContext} {body : List Stmt}
  {slots : TypeSlots} {ir : KernelIR}

/-- A kernel ends in a sound state, in which the values of its body were taken. -/
theorem exists_takes (occurring : Occurring (Stmt.Occurs body))
    (success : (ofBody name target context body slots).1 = .ok ir) :
    ∃ final, ir.EndsIn final ∧
      final.Sound (Stmt.Occurs body) context.leafOf? (.block context.leafOf? .none body) ∧
      Lowering.Takes context.argTypes (Stmt.Occurs body) (Stmt.blockTaken body)
        (Stmt.blockWrites body) (.start slots) final (Op.blockTaken ir.body) := by
  obtain ⟨final, lowered, ends, _⟩ := exists_run success
  obtain ⟨leads, _, _⟩ :=
    Lower.block_sound occurring body (fun root member => .root member)
      (Lowering.start_sound _ _ slots) lowered
  exact ⟨final, ends, leads.sound,
    Lower.block_takes occurring body (fun root member => .root member)
      (Lowering.start_shared _ _ slots) lowered⟩

/-- An expression of a kernel is lowered once, however often its value is needed, and the
node table is linear in the number of expressions and of statements that write values. -/
theorem exists_shares (recorded : Stmt.Recorded body)
    (success : (ofBody name target context body slots).1 = .ok ir) :
    ∃ nodeOf?, ir.Shares context body nodeOf? := by
  have occurring := recorded.occurring
  obtain ⟨final, ends, sound, takes⟩ := exists_takes occurring success
  have known {value : Expr} (member : value ∈ Stmt.blockValues body) :
      Stmt.Occurs body value :=
    occurring.allValues takes.known member
  have table : NodeTable.mk ir.nodes (fun key => final.lowered[key]?) = final.table := by
    rw [ends.nodes]
    rfl
  refine ⟨fun key => final.lowered[key]?, ?_, ?_, ?_, ?_, ?_, ?_⟩
  · intro key
    constructor
    · intro present
      obtain ⟨id, cached⟩ := Option.isSome_iff_exists.mp present
      rcases takes.spends.among cached with cached | among
      · simp [Lowering.start] at cached
      · exact among
    · rintro ⟨value, member, rfl⟩
      exact Option.isSome_iff_exists.mpr (takes.exists_node occurring member)
  · intro value other id member memberOther
    exact takes.shared.distinct (known member) (known memberOther)
  · intro value id member found
    exact (sound.computes (known member) found).mono (ends.grows _ _) value
  · intro value id member
    rw [table]
    exact takes.shared.joins (known member)
  · rw [table]
    exact takes.serves
  · have size := takes.spends.size
    have bound : final.lowered.size ≤ ((Stmt.blockValues body).map Expr.key).toFinset.card :=
      takes.lowered_size
    simp only [Lowering.start, Array.size_empty, Std.TreeMap.size_emptyc] at size
    rw [ends.nodes]
    omega

end Body

end KernelIR

namespace Doubled

def truth : Expr :=
  .literal 0 (.int 1) .u1

def twice : Expr :=
  .binary 1 .add truth truth

def fourfold : Expr :=
  .binary 2 .add twice twice

def total : Variable :=
  ⟨3, ⟨0, some "x"⟩⟩

/-- A truth value is added up by doubling, and what it comes to is used twice. -/
def body : List Stmt :=
  [.alloca none total.identifier .unknown, .assign none (.identifier total) fourfold,
    .print none (.expr fourfold) .none]

theorem recorded : Stmt.Recorded body := by
  have start : Recorder.Reached ⟨⟨.empty, #[], #[], #[], #[]⟩, ⟨0, 0⟩, .empty, 0, #[]⟩ [] :=
    .start rfl rfl rfl
  have made := start.step (.build (.constant (.literal 0 (.int 1)) (some (.text 0 "u1"))))
    (.expr truth)
    (by simp [Operation.values, Building.values, HostValue.exprs]) (by cbv)
  have doubled := made.step (.build (.binaryOp .add (.expr truth) (.expr truth))) (.expr twice)
    (by simp [Operation.values, Building.values, HostValue.exprs]) rfl
  have again := doubled.step (.build (.binaryOp .add (.expr twice) (.expr twice))) (.expr fourfold)
    (by simp [Operation.values, Building.values, HostValue.exprs]) rfl
  have kernel := again.step (.newBlock "kernel k") (.block 0) (by simp [Operation.values]) rfl
  have scope := kernel.step (.enterRoot (.block 0)) (.guard 0 0 (.block 0))
    (by simp [Operation.values, HostValue.exprs]) rfl
  have declared := scope.step (.alloca (some "x")) (.expr (.identifier total))
    (by simp [Operation.values]) rfl
  have assigned := declared.step (.assign (.expr (.identifier total)) (.expr fourfold))
    (.statement 1)
    (by simp [Operation.values, HostValue.exprs]) rfl
  have printed := assigned.step (.print (.expr fourfold) .none) (.statement 2)
    (by simp [Operation.values, HostValue.exprs]) rfl
  exact ⟨_, _, 0, printed, rfl⟩

def context : LoweringContext :=
  ⟨.x86, [], ⟨.empty, #[], #[], #[], #[]⟩, ∅⟩

theorem shares_doubled :
    Stmt.Recorded body ∧
      ∃ ir, (KernelIR.ofBody "k" (.member .x86) context body .empty).1 = .ok ir ∧
        ir.nodes.size = 5 ∧ ∃ nodeOf?, ir.Shares context body nodeOf? := by
  have size : ((KernelIR.ofBody "k" (.member .x86) context body .empty).1.map
      (·.nodes.size)).toOption = some 5 := by
    decide +kernel
  rcases lowered : (KernelIR.ofBody "k" (.member .x86) context body .empty).1 with error | ir
  · simp [lowered, Except.map, Except.toOption] at size
  · rw [lowered] at size
    exact ⟨recorded, ir, rfl, Option.some.inj size, KernelIR.exists_shares recorded lowered⟩

end Doubled

end FieldKernel
