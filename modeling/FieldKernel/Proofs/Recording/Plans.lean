import FieldKernel.Proofs.Recording.Arena
import FieldKernel.Recording.Builder

/-!
# Plans

A tree of statements that is to be recorded.  How a recording shows a plan: its
statements are in their blocks, in their order, with the expressions that the
plan has, where a place that stands for a value is read first.
-/

namespace FieldKernel

/-- A statement that is to be recorded, with what is inside it. -/
inductive Plan where
  | alloca (identifier : Identifier) (type : DataType)
  | assign (target value : Expr)
  | print (value : Expr) (label : HostValue)
  | branch (condition : Expr) (onTrue onFalse : List Plan)
  | range (var : Variable) (first last : Expr) (body : List Plan)
  | elements (indices : HostValue) (vars : List Variable) (field : Field) (body : List Plan)

/-- A value that stands for a row of variables. -/
inductive Lists (groups : Array (List Expr)) (vars : List Variable) : HostValue → Prop where
  | list (id : Nat) : Lists groups vars (.list id (vars.map fun var => .expr (.identifier var)))
  | tuple (id : Nat) : Lists groups vars (.tuple id (vars.map fun var => .expr (.identifier var)))
  | group (id : Nat) : groups[id]? = some (vars.map .identifier) → Lists groups vars (.group id)

namespace Record

/-- Records in a scope for a branch of the conditional that was recorded last. -/
def inBranch (branch : Branch) (inside : Record Unit) : Record Unit := do
  let _ ← enterBranch branch
  inside
  let _ ← popScope

/-- Records in a scope for the body of the loop that was recorded last. -/
def inBody (inside : Record Unit) : Record Unit := do
  let _ ← enterBody
  inside
  let _ ← popScope

end Record

namespace Plan

mutual

/-- Assignments go to what can be assigned, and loops over the elements of a
field have variables, as many as a field that is placed has axes. -/
def Fits (groups : Array (List Expr)) (layouts : Layouts) : Plan → Prop
  | .assign target _ => target.isLvalue
  | .branch _ onTrue onFalse => AllFit groups layouts onTrue ∧ AllFit groups layouts onFalse
  | .range _ _ _ body => AllFit groups layouts body
  | .elements indices vars field body =>
    (Lists groups vars indices ∧ vars ≠ [] ∧
      ∀ tree leaf, layouts.leafOf? field = some (tree, leaf) →
        leaf.lineage.axes.length = vars.length) ∧
      AllFit groups layouts body
  | _ => True

def AllFit (groups : Array (List Expr)) (layouts : Layouts) : List Plan → Prop
  | [] => True
  | first :: rest => first.Fits groups layouts ∧ AllFit groups layouts rest

end

mutual

/-- Records a statement, and in scopes of their own what is inside it. -/
def replay : Plan → Record Unit
  | .alloca identifier type => do
    let statement ← Record.addTo (·.addStatement (.alloca identifier type))
    Record.insert (.statement statement)
  | .assign target value => do
    let _ ← Record.assign (.expr target) (.expr value)
  | .print value label => do
    let _ ← Record.print (.expr value) label
  | .branch condition onTrue onFalse => do
    let _ ← Record.beginIf (.expr condition)
    Record.inBranch .onTrue (replayAll onTrue)
    Record.inBranch .onFalse (replayAll onFalse)
  | .range var first last body => do
    let _ ← Record.beginRange (.expr (.identifier var)) (.expr first) (.expr last)
    Record.inBody (replayAll body)
  | .elements indices _ field body => do
    let _ ← Record.beginElements indices (.expr (.field field))
    Record.inBody (replayAll body)

/-- Records statements one after the other. -/
def replayAll : List Plan → Record Unit
  | [] => return
  | first :: rest => do
    first.replay
    replayAll rest

end

end Plan

/-- The place of an element is read where it stands for a value. -/
inductive Loaded : Expr → Expr → Prop where
  | place (key : Nat) (place : Element) :
      Loaded (.ofElement place) (.load key place.key place.field place.indices)
  | other {value : Expr} : value.element? = none → Loaded value value

namespace Recording

mutual

/-- A statement in a block shows a plan.  All blocks inside it have numbers
from a given one on, and all loops among what it shows are listed in their
order. -/
inductive Shows (recording : Recording) : Nat → Nat → Nat → Plan → List Nat → Prop where
  | alloca {start block id : Nat} {identifier : Identifier} {type : DataType} :
      recording.statement id = ⟨.alloca identifier type, some block, none⟩ →
      Shows recording start block id (.alloca identifier type) []
  | assign {start block id : Nat} {target value read : Expr} : Loaded value read →
      recording.statement id = ⟨.assign target read, some block, none⟩ →
      Shows recording start block id (.assign target value) []
  | print {start block id : Nat} {value read : Expr} {label : HostValue} : Loaded value read →
      recording.statement id = ⟨.print (.expr read) label, some block, none⟩ →
      Shows recording start block id (.print value label) []
  | branch {start block id onTrue : Nat} {condition read : Expr} {trues falses : List Nat}
      {truePlans falsePlans : List Plan} {trueLoops falseLoops : List Nat} :
      Loaded condition read → start ≤ onTrue →
      recording.statement id = ⟨.branch (.expr read) onTrue (onTrue + 1) none, some block, none⟩ →
      recording.block onTrue = ⟨some id, "true", trues⟩ →
      recording.block (onTrue + 1) = ⟨some id, "false", falses⟩ →
      ShowsAll recording (onTrue + 2) onTrue trues truePlans trueLoops →
      ShowsAll recording (onTrue + 2) (onTrue + 1) falses falsePlans falseLoops →
      Shows recording start block id (.branch condition truePlans falsePlans)
        (trueLoops ++ falseLoops)
  | range {start block id body : Nat} {var : Variable} {first last readFirst readLast : Expr}
      {ids : List Nat} {plans : List Plan} {loops : List Nat} :
      Loaded first readFirst → Loaded last readLast → start ≤ body →
      recording.statement id =
        ⟨.loop [var] (.range readFirst readLast) body .empty, some block, none⟩ →
      recording.block body = ⟨some id, "body", ids⟩ →
      ShowsAll recording (body + 1) body ids plans loops →
      Shows recording start block id (.range var first last plans) (id :: loops)
  | elements {start block id body : Nat} {indices : HostValue} {vars : List Variable}
      {field : Field} {ids : List Nat} {plans : List Plan} {loops : List Nat} : start ≤ body →
      recording.statement id = ⟨.loop vars (.elements field) body .empty, some block, none⟩ →
      recording.block body = ⟨some id, "body", ids⟩ →
      ShowsAll recording (body + 1) body ids plans loops →
      Shows recording start block id (.elements indices vars field plans) (id :: loops)

/-- Statements in a block show plans, each its own. -/
inductive ShowsAll (recording : Recording) :
    Nat → Nat → List Nat → List Plan → List Nat → Prop where
  | nil {start block : Nat} : ShowsAll recording start block [] [] []
  | cons {start block id : Nat} {ids : List Nat} {plan : Plan} {plans : List Plan}
      {loops later : List Nat} :
      Shows recording start block id plan loops → ShowsAll recording start block ids plans later →
      ShowsAll recording start block (id :: ids) (plan :: plans) (loops ++ later)

end

/-- What shows plans is left alone: statements in which no branch is open, and
blocks from a number on that are inside of statements. -/
structure Spares (start : Nat) (before after : Recording) : Prop where
  statement {id parent : Nat} (held : (before.statement id).parent? = some parent)
    (closed : (before.statement id).kind.marked none = (before.statement id).kind) :
    after.statement id = before.statement id
  block {id owner : Nat} (above : start ≤ id) (owned : (before.block id).owner? = some owner) :
    after.block id = before.block id

theorem Spares.weaken {start later : Nat} {before after : Recording}
    (spares : Spares start before after) (above : start ≤ later) : Spares later before after :=
  ⟨spares.statement, fun beyond => spares.block (above.trans beyond)⟩

mutual

theorem Shows.mono {before after : Recording} {start block id : Nat} {plan : Plan}
    {loops : List Nat} (shown : before.Shows start block id plan loops) {low : Nat}
    (below : low ≤ start) (spares : Spares low before after) :
    after.Shows low block id plan loops := by
  cases shown with
  | alloca held =>
      exact .alloca ((spares.statement (by rw [held]) (by rw [held]; rfl)).trans held)
  | assign loaded held =>
      exact .assign loaded ((spares.statement (by rw [held]) (by rw [held]; rfl)).trans held)
  | print loaded held =>
      exact .print loaded ((spares.statement (by rw [held]) (by rw [held]; rfl)).trans held)
  | branch loaded above held trueBlock falseBlock trues falses =>
      exact .branch loaded (by omega)
        ((spares.statement (by rw [held]) (by rw [held]; rfl)).trans held)
        ((spares.block (by omega) (by rw [trueBlock])).trans trueBlock)
        ((spares.block (by omega) (by rw [falseBlock])).trans falseBlock)
        (trues.mono le_rfl (spares.weaken (by omega)))
        (falses.mono le_rfl (spares.weaken (by omega)))
  | range loadedFirst loadedLast above held bodyBlock body =>
      exact .range loadedFirst loadedLast (by omega)
        ((spares.statement (by rw [held]) (by rw [held]; rfl)).trans held)
        ((spares.block (by omega) (by rw [bodyBlock])).trans bodyBlock)
        (body.mono le_rfl (spares.weaken (by omega)))
  | elements above held bodyBlock body =>
      exact .elements (by omega)
        ((spares.statement (by rw [held]) (by rw [held]; rfl)).trans held)
        ((spares.block (by omega) (by rw [bodyBlock])).trans bodyBlock)
        (body.mono le_rfl (spares.weaken (by omega)))

theorem ShowsAll.mono {before after : Recording} {start block : Nat} {ids : List Nat}
    {plans : List Plan} {loops : List Nat} (shown : before.ShowsAll start block ids plans loops)
    {low : Nat} (below : low ≤ start) (spares : Spares low before after) :
    after.ShowsAll low block ids plans loops := by
  cases shown with
  | nil => exact .nil
  | cons first rest => exact .cons (first.mono below spares) (rest.mono below spares)

end

theorem Shows.one {recording : Recording} {start block id : Nat} {plan : Plan} {loops : List Nat}
    (shown : recording.Shows start block id plan loops) :
    recording.ShowsAll start block [id] [plan] loops := by
  rw [← List.append_nil loops]
  exact .cons shown .nil

theorem ShowsAll.append {recording : Recording} {start block : Nat} {ids later : List Nat}
    {plans others : List Plan} {loops more : List Nat}
    (first : recording.ShowsAll start block ids plans loops)
    (second : recording.ShowsAll start block later others more) :
    recording.ShowsAll start block (ids ++ later) (plans ++ others) (loops ++ more) := by
  induction ids generalizing plans loops with
  | nil =>
      cases first with
      | nil => exact second
  | cons id ids hypothesis =>
      cases first with
      | cons shown rest =>
          rw [List.append_assoc]
          exact .cons shown (hypothesis rest)

theorem spares_markOpen (recording : Recording) (start owner : Nat) :
    Spares start recording (recording.markOpen owner none) where
  statement {id parent} held closed := by
    by_cases same : id = owner
    · subst same
      rw [statement_markOpen_self none (lt_of_parent held), closed]
    · exact statement_markOpen_of_ne none same
  block _ _ := rfl

/-- What shows plans is left alone while a block with a lower number grows. -/
theorem Grows.spares {before after : Recording} {target start : Nat} {ids : List Nat}
    (grows : before.Grows after target ids) (apart : target < start) :
    Spares start before after where
  statement held _ := grows.statement (lt_of_parent held)
  block above owned := grows.block (lt_of_owner owned) (by omega)

end Recording

namespace Plan

mutual

/-- A plan describes a statement: the two have the same structure, and a place
that stands for a value is read. -/
inductive Describes : Plan → Stmt → Prop where
  | alloca {identifier : Identifier} {type : DataType} :
      Describes (.alloca identifier type) (.alloca none identifier type)
  | assign {target value read : Expr} : Loaded value read →
      Describes (.assign target value) (.assign none target read)
  | print {value read : Expr} {label : HostValue} : Loaded value read →
      Describes (.print value label) (.print none (.expr read) label)
  | branch {condition read : Expr} {truePlans falsePlans : List Plan} {trues falses : List Stmt} :
      Loaded condition read → DescribeAll truePlans trues → DescribeAll falsePlans falses →
      Describes (.branch condition truePlans falsePlans) (.branch none (.expr read) trues falses)
  | range {var : Variable} {first last readFirst readLast : Expr} {plans : List Plan}
      {body : List Stmt} : Loaded first readFirst → Loaded last readLast → DescribeAll plans body →
      Describes (.range var first last plans)
        (.loop none [var] (.range readFirst readLast) .empty body)
  | elements {indices : HostValue} {vars : List Variable} {field : Field} {plans : List Plan}
      {body : List Stmt} : DescribeAll plans body →
      Describes (.elements indices vars field plans) (.loop none vars (.elements field) .empty body)

/-- Plans describe as many statements, each its own. -/
inductive DescribeAll : List Plan → List Stmt → Prop where
  | nil : DescribeAll [] []
  | cons {plan : Plan} {stmt : Stmt} {plans : List Plan} {stmts : List Stmt} :
      plan.Describes stmt → DescribeAll plans stmts → DescribeAll (plan :: plans) (stmt :: stmts)

end

end Plan

namespace Recording

theorem unfold_succ (recording : Recording) {block : Nat} {ids : List Nat}
    (listed : (recording.block block).statements = ids) (depth : Nat) :
    recording.unfold (depth + 1) block =
      ids.map fun id => stmtOf (recording.unfold depth) (recording.statement id) := by
  rw [unfold, listed]

mutual

/-- What is shown is the tree that the statement unfolds to, if that goes as
deep as there are blocks for it. -/
theorem Shows.describes {recording : Recording} {start block id : Nat} {plan : Plan}
    {loops : List Nat} (shown : recording.Shows start block id plan loops) {depth : Nat}
    (deep : recording.blocks.size ≤ start + depth) :
    plan.Describes (stmtOf (recording.unfold depth) (recording.statement id)) := by
  cases shown with
  | alloca held =>
      rw [held]
      exact .alloca
  | assign loaded held =>
      rw [held]
      exact .assign loaded
  | print loaded held =>
      rw [held]
      exact .print loaded
  | branch loaded above held trueBlock falseBlock trues falses =>
      have known := lt_of_owner (by rw [trueBlock])
      obtain ⟨deeper, rfl⟩ : ∃ deeper, depth = deeper + 1 := ⟨depth - 1, by omega⟩
      have unfoldedTrue := recording.unfold_succ (by rw [trueBlock]) deeper
      have unfoldedFalse := recording.unfold_succ (by rw [falseBlock]) deeper
      rw [held]
      dsimp only [stmtOf]
      rw [unfoldedTrue, unfoldedFalse]
      exact .branch loaded (trues.describe (by omega)) (falses.describe (by omega))
  | range loadedFirst loadedLast above held bodyBlock body =>
      have known := lt_of_owner (by rw [bodyBlock])
      obtain ⟨deeper, rfl⟩ : ∃ deeper, depth = deeper + 1 := ⟨depth - 1, by omega⟩
      have unfolded := recording.unfold_succ (by rw [bodyBlock]) deeper
      rw [held]
      dsimp only [stmtOf]
      rw [unfolded]
      exact .range loadedFirst loadedLast (body.describe (by omega))
  | elements above held bodyBlock body =>
      have known := lt_of_owner (by rw [bodyBlock])
      obtain ⟨deeper, rfl⟩ : ∃ deeper, depth = deeper + 1 := ⟨depth - 1, by omega⟩
      have unfolded := recording.unfold_succ (by rw [bodyBlock]) deeper
      rw [held]
      dsimp only [stmtOf]
      rw [unfolded]
      exact .elements (body.describe (by omega))

theorem ShowsAll.describe {recording : Recording} {start block : Nat} {ids : List Nat}
    {plans : List Plan} {loops : List Nat} (shown : recording.ShowsAll start block ids plans loops)
    {depth : Nat} (deep : recording.blocks.size ≤ start + depth) :
    Plan.DescribeAll plans
      (ids.map fun id => stmtOf (recording.unfold depth) (recording.statement id)) := by
  cases shown with
  | nil => exact .nil
  | cons first rest => exact .cons (first.describes deep) (rest.describe deep)

end

/-- What is shown in a block is the tree of the block. -/
theorem ShowsAll.body {recording : Recording} {start block : Nat} {plans : List Plan}
    {loops : List Nat}
    (shown : recording.ShowsAll start block (recording.block block).statements plans loops)
    (known : block < recording.blocks.size) (above : block < start) :
    Plan.DescribeAll plans (recording.body block) := by
  obtain ⟨depth, size⟩ : ∃ depth, recording.blocks.size = depth + 1 :=
    ⟨recording.blocks.size - 1, by omega⟩
  rw [Recording.body, size, recording.unfold_succ rfl depth]
  exact shown.describe (by omega)

end Recording

end FieldKernel
