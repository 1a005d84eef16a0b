import FieldKernel.Expr.HostOperator
import FieldKernel.Proofs.Recording.Nodes
import FieldKernel.Recording.Making

/-!
# Code that host code can record

Host code makes expressions and statements out of those that it has, and
records them with builders.  What it can have is what it was answered before,
what is in recorded statements and index groups, and everything below that.
-/

namespace FieldKernel

mutual

/-- The expressions in a host value. -/
def HostValue.exprs : HostValue → List Expr
  | .expr value => [value]
  | .list _ items => HostValue.allExprs items
  | .tuple _ items => HostValue.allExprs items
  | .mapping _ values => HostValue.allExprs values
  | .guard _ _ scope => scope.exprs
  | _ => []

/-- The expressions in a row of host values. -/
def HostValue.allExprs : List HostValue → List Expr
  | [] => []
  | first :: rest => first.exprs ++ HostValue.allExprs rest

end

/-- The expressions that a statement was made with. -/
def StatementKind.exprs : StatementKind → List Expr
  | .alloca _ _ => []
  | .assign target value => [target, value]
  | .load place => [.ofElement place]
  | .store place value => [.ofElement place, value]
  | .print value label => value.exprs ++ label.exprs
  | .branch condition _ _ _ => condition.exprs
  | .loop vars source _ _ => source.roots ++ vars.map .identifier
  | .bare => []

/-- Ways to make expressions. -/
inductive Building where
  | freshVariable (name? : Option String)
  | constant (value : HostValue) (type? : Option HostValue)
  | expr (value : HostValue)
  | valueExpr (value : HostValue)
  | group (members : HostValue)
  | binary (op left right : HostValue)
  | binaryOp (op : BinaryOp) (left right : HostValue)
  | operator (op : BinaryOp) (left right : HostValue)
  | unary (op operand : HostValue)
  | signed (negates : Bool) (operand : HostValue)
  | cast (operand type : HostValue)
  | argument (position : Int) (type : DataType)
  | arguments (types : List DataType)
  | field (name type : HostValue)
  | subscript (value indices : HostValue)
  | index (value position : HostValue)
  | item (value key : HostValue)
  | explicitLoad (place : HostValue)

namespace Building

/-- The values that are given. -/
def values : Building → List HostValue
  | freshVariable _ => []
  | constant value type? => value :: type?.toList
  | expr value => [value]
  | valueExpr value => [value]
  | group members => [members]
  | binary op left right => [op, left, right]
  | binaryOp _ left right => [left, right]
  | operator _ left right => [left, right]
  | unary op operand => [op, operand]
  | signed _ operand => [operand]
  | cast operand type => [operand, type]
  | argument _ _ => []
  | arguments _ => []
  | field name type => [name, type]
  | subscript value indices => [value, indices]
  | index value position => [value, position]
  | item value key => [value, key]
  | explicitLoad place => [place]

/-- A row of expressions as a value. -/
def row (items : List Expr) : HostValue :=
  .list 0 (items.map .expr)

/-- Makes the expressions. -/
def perform : Building → Build HostValue
  | freshVariable name? => do return .expr (.identifier (← Build.freshVariable name?))
  | constant value type? => .expr <$> Build.constant value type?
  | expr value => .expr <$> Build.expr value
  | valueExpr value => .expr <$> Build.valueExpr value
  | group members => row <$> Build.group members
  | binary op left right => .expr <$> Build.binary op left right
  | binaryOp op left right => .expr <$> Build.binaryOp op left right
  | operator op left right => Build.operator op left right
  | unary op operand => .expr <$> Build.unary op operand
  | signed negates operand => Build.signed negates operand
  | cast operand type => .expr <$> Build.cast operand type
  | argument position type => .expr <$> Build.argument position type
  | arguments types => row <$> Build.arguments types
  | field name type => .expr <$> Build.field name type
  | subscript value indices => .expr <$> Build.subscript value indices
  | index value position => .expr <$> Build.index value position
  | item value key => Build.item value key
  | explicitLoad place => .expr <$> Build.explicitLoad place

end Building

/-- What host code does in order to record: it makes expressions, uses a
builder, or makes statements on their own. -/
inductive Operation where
  | build (building : Building)
  | createScope (scope : HostValue)
  | popScope
  | enterRoot (scope : HostValue)
  | exitRoot
  | reset
  | leave (guard : Guard) (failed : Bool)
  | insert (statement : HostValue)
  | insertInto (block statement : HostValue)
  | alloca (name? : Option String)
  | assign (target value : HostValue)
  | var (value : HostValue) (name? : Option String)
  | print (value label : HostValue)
  | beginIf (condition : HostValue)
  | enterBranch (branch : Branch)
  | beginRange (counter first last : HostValue)
  | beginElements (vars field : HostValue)
  | enterBody
  | openRange (counter first last : HostValue)
  | openElements (vars field : HostValue)
  | hint (kind : HintKind) (value : HostValue)
  | newBlock (label : String)
  | newAssign (target value : HostValue)
  | newStore (place value : HostValue)
  | newLoad (place : HostValue)
  | newAlloca (named : HostValue) (type? : Option HostValue)
  | newPrint (value label : HostValue)
  | newBranch (condition : HostValue)
  | newRange (counter first last : HostValue)
  | newElements (vars field : HostValue)
  | newBare
  | locate (statement : Nat) (location : Location)
  | setHint (loop : Nat) (kind : HintKind) (value : HintValue)

namespace Operation

/-- The values that are given. -/
def values : Operation → List HostValue
  | build building => building.values
  | createScope scope => [scope]
  | popScope => []
  | enterRoot scope => [scope]
  | exitRoot => []
  | reset => []
  | leave guard _ => [guard.scope]
  | insert statement => [statement]
  | insertInto block statement => [block, statement]
  | alloca _ => []
  | assign target value => [target, value]
  | var value _ => [value]
  | print value label => [value, label]
  | beginIf condition => [condition]
  | enterBranch _ => []
  | beginRange counter first last => [counter, first, last]
  | beginElements vars field => [vars, field]
  | enterBody => []
  | openRange counter first last => [counter, first, last]
  | openElements vars field => [vars, field]
  | hint _ value => [value]
  | newBlock _ => []
  | newAssign target value => [target, value]
  | newStore place value => [place, value]
  | newLoad place => [place]
  | newAlloca named type? => named :: type?.toList
  | newPrint value label => [value, label]
  | newBranch condition => [condition]
  | newRange counter first last => [counter, first, last]
  | newElements vars field => [vars, field]
  | newBare => []
  | locate _ _ => []
  | setHint _ _ _ => []

/-- A variable as a value. -/
def ofVariable (declared : Variable) : HostValue :=
  .expr (.identifier declared)

/-- A guard as a value; which builder it belongs to is not looked at. -/
def ofGuard (guard : Guard) : HostValue :=
  .guard 0 guard.id guard.scope

/-- What an operation does, with what it answers. -/
def perform : Operation → Record HostValue
  | build building => Record.build building.perform
  | createScope scope => ofGuard <$> Record.createScope scope
  | popScope => Record.popScope
  | enterRoot scope => ofGuard <$> Record.enterRoot scope
  | exitRoot => Record.exitRoot
  | reset => (fun _ => .none) <$> Record.reset
  | leave guard failed => (fun _ => .none) <$> Record.leave guard failed
  | insert statement => (fun _ => .none) <$> Record.insert statement
  | insertInto block statement => (fun _ => .none) <$> Record.insertInto block statement
  | alloca name? => ofVariable <$> Record.alloca name?
  | assign target value => .statement <$> Record.assign target value
  | var value name? => ofVariable <$> Record.var value name?
  | print value label => .statement <$> Record.print value label
  | beginIf condition => .statement <$> Record.beginIf condition
  | enterBranch branch => ofGuard <$> Record.enterBranch branch
  | beginRange counter first last => .statement <$> Record.beginRange counter first last
  | beginElements vars field => .statement <$> Record.beginElements vars field
  | enterBody => ofGuard <$> Record.enterBody
  | openRange counter first last => ofGuard <$> Record.openRange counter first last
  | openElements vars field => ofGuard <$> Record.openElements vars field
  | hint kind value => .statement <$> Record.hint kind value
  | newBlock label => .block <$> Record.newBlock label
  | newAssign target value => .statement <$> Record.newAssign target value
  | newStore place value => .statement <$> Record.newStore place value
  | newLoad place => .statement <$> Record.newLoad place
  | newAlloca named type? => .statement <$> Record.newAlloca named type?
  | newPrint value label => .statement <$> Record.newPrint value label
  | newBranch condition => .statement <$> Record.newBranch condition
  | newRange counter first last => .statement <$> Record.newRange counter first last
  | newElements vars field => .statement <$> Record.newElements vars field
  | newBare => .statement <$> Record.newBare
  | locate statement location => (fun _ => .none) <$> Record.locate statement location
  | setHint loop kind value => (fun _ => .none) <$> Record.setHint loop kind value

/-- The expressions that host code is answered; a failure answers none. -/
def answered : Except Error HostValue → List Expr
  | .ok value => value.exprs
  | .error _ => []

end Operation

/-- The expressions that host code can take from what it was answered and what
is recorded. -/
inductive Recorder.Offers (recorder : Recorder) (held : List Expr) : Expr → Prop where
  | held {expr : Expr} (member : expr ∈ held) : Offers recorder held expr
  | recorded {expr : Expr} {statement : Nat}
      (member : expr ∈ (recorder.recording.statement statement).kind.exprs) :
      Offers recorder held expr
  | grouped {expr : Expr} {group : Nat} (member : expr ∈ recorder.group group) :
      Offers recorder held expr
  | operand {expr part : Expr} (whole : Offers recorder held expr)
      (below : part ∈ expr.operands) : Offers recorder held part

/-- What host code can come to by recording, with the expressions that it was
answered on the way. -/
inductive Recorder.Reached : Recorder → List Expr → Prop where
  | start {recorder : Recorder} (recording : recorder.recording = .empty)
      (groups : recorder.groups = #[]) (scopes : recorder.builder.stack = []) :
      Reached recorder []
  /-- An operation can fail; what it did before that is done. -/
  | perform {recorder : Recorder} {held : List Expr} (reached : Reached recorder held)
      (operation : Operation)
      (given : ∀ value ∈ operation.values, ∀ expr ∈ value.exprs, recorder.Offers held expr) :
      Reached (operation.perform.run.run recorder).2
        (Operation.answered (operation.perform.run.run recorder).1 ++ held)
  /-- In between, another builder with its scopes can come up, and layouts,
  kernels and groups of what there is can be made. -/
  | meanwhile {recorder next : Recorder} {held : List Expr} (reached : Reached recorder held)
      (recording : next.recording = recorder.recording)
      (keys : recorder.supply.key ≤ next.supply.key)
      (identifiers : recorder.supply.identifier ≤ next.supply.identifier)
      (groups : ∀ group, ∀ expr ∈ next.group group, recorder.Offers held expr)
      (scopes : ∀ guard ∈ next.builder.stack, ∀ expr ∈ guard.scope.exprs,
        recorder.Offers held expr) :
      Reached next held

/-- The body of a block that host code can come to by recording. -/
def Stmt.Recorded (body : List Stmt) : Prop :=
  ∃ recorder held block, Recorder.Reached recorder held ∧ recorder.recording.body block = body

end FieldKernel
