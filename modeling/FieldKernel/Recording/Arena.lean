import FieldKernel.Recording.Stmt

/-!
# Blocks and statements

A block is a row of statements, and a conditional or a loop owns the blocks inside it. Host code
holds on to both, so they are kept under numbers: a statement belongs to at most one block, which
its `parent?` names. The tree of a block is unfolded from the numbers on demand.
-/

namespace FieldKernel

/-- A branch of a conditional. -/
inductive Branch where
  | onTrue
  | onFalse
  deriving DecidableEq, Repr

namespace Branch

/-- The label of a branch, which is also that of its block. -/
def label : Branch → String
  | onTrue => "true"
  | onFalse => "false"

end Branch

/-- What a statement does; the blocks inside it are given by their numbers. -/
inductive StatementKind where
  | alloca (identifier : Identifier) (type : DataType)
  | assign (target value : Expr)
  | load (place : Element)
  | store (place : Element) (value : Expr)
  | print (value label : HostValue)
  /-- A conditional, with the branch whose scope was entered and not yet left. -/
  | branch (condition : HostValue) (onTrue onFalse : Nat) (open? : Option Branch)
  | loop (vars : List Variable) (source : LoopSource) (body : Nat) (schedule : Schedule)
  | bare

/-- A statement with the block it is in and the place it was recorded at. -/
structure Statement where
  kind : StatementKind
  parent? : Option Nat
  location? : Option Location

/-- A row of statements, with the statement that it is inside of. -/
structure Block where
  owner? : Option Nat
  label : String
  statements : List Nat
  deriving DecidableEq, Repr

namespace Block

def text (block : Block) : String :=
  "Block(" ++ block.label ++ ", " ++ toString block.statements.length ++ " stmts)"

end Block

/-- All blocks and statements under their numbers. -/
structure Recording where
  blocks : Array Block
  statements : Array Statement

namespace Recording

def empty : Recording :=
  ⟨#[], #[]⟩

def block (recording : Recording) (id : Nat) : Block :=
  recording.blocks[id]?.getD ⟨none, "", []⟩

def statement (recording : Recording) (id : Nat) : Statement :=
  recording.statements[id]?.getD ⟨.bare, none, none⟩

def last? (recording : Recording) (block : Nat) : Option Nat :=
  (recording.block block).statements.getLast?

def modifyBlock (recording : Recording) (id : Nat) (change : Block → Block) : Recording :=
  { recording with blocks := recording.blocks.modify id change }

def modifyStatement (recording : Recording) (id : Nat) (change : Statement → Statement) :
    Recording :=
  { recording with statements := recording.statements.modify id change }

def modifyKind (recording : Recording) (id : Nat) (change : StatementKind → StatementKind) :
    Recording :=
  recording.modifyStatement id fun statement => { statement with kind := change statement.kind }

def addBlock (recording : Recording) (owner? : Option Nat) (label : String) : Nat × Recording :=
  (recording.blocks.size,
    { recording with blocks := recording.blocks.push ⟨owner?, label, []⟩ })

/-- Adds a statement that is in no block. -/
def addStatement (recording : Recording) (kind : StatementKind) : Nat × Recording :=
  (recording.statements.size,
    { recording with statements := recording.statements.push ⟨kind, none, none⟩ })

/-- Adds a conditional with two empty branches. -/
def addBranch (recording : Recording) (condition : HostValue) : Nat × Recording :=
  let id := recording.statements.size
  let (onTrue, recording) := recording.addBlock (some id) Branch.onTrue.label
  let (onFalse, recording) := recording.addBlock (some id) Branch.onFalse.label
  recording.addStatement (.branch condition onTrue onFalse none)

/-- Adds a loop with an empty body. -/
def addLoop (recording : Recording) (vars : List Variable) (source : LoopSource) :
    Nat × Recording :=
  let id := recording.statements.size
  let (body, recording) := recording.addBlock (some id) "body"
  recording.addStatement (.loop vars source body .empty)

def append (recording : Recording) (block statement : Nat) : Recording :=
  (recording.modifyStatement statement fun entry => { entry with parent? := some block }).modifyBlock
    block fun entry => { entry with statements := entry.statements ++ [statement] }

/-- The numbers of the blocks inside a statement. -/
def childBlocks (recording : Recording) (statement : Nat) : List Nat :=
  match (recording.statement statement).kind with
  | .branch _ onTrue onFalse _ => [onTrue, onFalse]
  | .loop _ _ body _ => [body]
  | _ => []

/-- A statement as a tree, given the trees of the statements in the blocks inside it. -/
def stmtOf (inside : Nat → List Stmt) (statement : Statement) : Stmt :=
  let site? := statement.location?
  match statement.kind with
  | .alloca identifier type => .alloca site? identifier type
  | .assign target value => .assign site? target value
  | .load place => .load site? place
  | .store place value => .store site? place value
  | .print value label => .print site? value label
  | .branch condition onTrue onFalse _ =>
    .branch site? condition (inside onTrue) (inside onFalse)
  | .loop vars source body schedule => .loop site? vars source schedule (inside body)
  | .bare => .bare site?

/-- The trees of the statements in a block, down to a depth. -/
def unfold (recording : Recording) : Nat → Nat → List Stmt
  | 0, _ => [.endless]
  | depth + 1, block =>
    (recording.block block).statements.map fun id =>
      stmtOf (recording.unfold depth) (recording.statement id)

/-- The statements of a block. Blocks that are nested without end are nested deeper than their
number. -/
def body (recording : Recording) (block : Nat) : List Stmt :=
  recording.unfold recording.blocks.size block

/-- A statement with all that is inside it. -/
def stmt (recording : Recording) (id : Nat) : Stmt :=
  stmtOf recording.body (recording.statement id)

def className (recording : Recording) (id : Nat) : String :=
  (stmtOf (fun _ => []) (recording.statement id)).className

/-- The statement that a block is inside of, if it is a conditional: its condition and the branch
that is open. -/
def owningBranch? (recording : Recording) (block : Nat) :
    Option (Nat × HostValue × Option Branch) :=
  match (recording.block block).owner? with
  | none => none
  | some owner =>
    match (recording.statement owner).kind with
    | .branch condition _ _ open? => some (owner, condition, open?)
    | _ => none

/-- Marks the branch of a conditional that is open, or that none is. -/
def markOpen (recording : Recording) (statement : Nat) (mark : Option Branch) : Recording :=
  recording.modifyKind statement fun
    | .branch condition onTrue onFalse _ => .branch condition onTrue onFalse mark
    | kind => kind

def setHint (recording : Recording) (statement : Nat) (kind : HintKind) (value : HintValue) :
    Recording :=
  recording.modifyKind statement fun
    | .loop vars source body schedule => .loop vars source body (schedule.set kind value)
    | kind => kind

def schedule? (recording : Recording) (statement : Nat) : Option Schedule :=
  match (recording.statement statement).kind with
  | .loop _ _ _ schedule => some schedule
  | _ => none

/-- What a loop runs over, by name: two bounds or a field. -/
def sourceListing : LoopSource → Except HostFault (List (String × String))
  | .range first last => do
    return [("begin", ← Listing.expr first), ("end", ← Listing.expr last), ("global_var", "None")]
  | .elements field =>
    .ok [("begin", "None"), ("end", "None"), ("global_var", Listing.field field)]

/-- A statement with all its parts by name. -/
def listing (recording : Recording) (rendering : Rendering) (id : Nat) :
    Except HostFault String := do
  match (recording.statement id).kind with
  | .alloca identifier type =>
    return Listing.record "FrontendAllocaStmt"
      [("ident", Listing.identifier identifier), ("dt", Listing.dataType type)]
  | .assign target value =>
    return Listing.record "FrontendAssignStmt"
      [("lhs", ← Listing.expr target), ("rhs", ← Listing.expr value)]
  | .load place =>
    return Listing.record "GlobalLoadStmt" [("ptr", ← Listing.expr (.ofElement place))]
  | .store place value =>
    return Listing.record "GlobalStoreStmt"
      [("ptr", ← Listing.expr (.ofElement place)), ("value", ← Listing.expr value)]
  | .print value label =>
    return Listing.record "FrontendPrintStmt"
      [("expr", ← rendering.listing value), ("label", ← rendering.listing label)]
  | .branch condition onTrue onFalse open? =>
    return Listing.record "FrontendIfStmt"
      [("cond", ← rendering.listing condition),
        ("true_statements", (recording.block onTrue).text),
        ("false_statements", (recording.block onFalse).text),
        ("open_branch", (open?.map fun branch => Text.quoted branch.label).getD "None")]
  | .loop vars source body schedule =>
    let vars ← Listing.exprs (vars.map .identifier)
    let source ← sourceListing source
    return Listing.record "FrontendForStmt"
      ([("loop_vars", Listing.row vars)] ++ source ++
        [("body", (recording.block body).text), ("schedule", ← schedule.listing rendering)])
  | .bare => return "<tlang_jax.stmt.Stmt object>"

end Recording

end FieldKernel
