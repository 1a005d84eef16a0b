import FieldKernel.Execution.Run
import FieldKernel.Proofs.Meaning.Types

/-!
# The meaning of recorded code

Recorded statements are interpreted as they stand, one after the other.  Every
expression is computed as a plain tree at the moment its statement runs: no
node is shared, nothing is remembered, and the elements of a field are found
by the field itself.  This is what lowered code is measured against.
-/

namespace FieldKernel

/-- What recorded code is interpreted with. -/
structure Interpretation where
  /-- The types of expressions. -/
  typing : Typing
  /-- The type of the zero that a declaration sets its variable to, if known. -/
  resetType : Nat → DataType
  /-- The leaf that holds the elements of a field. -/
  leafOf : Field → Except Error Node
  args : List Box
  rendering : Rendering

namespace Interpretation

/-- A value of one type brought to another; there is nothing to do if the
types are the same. -/
def bring (source target : DataType) (value : Box) : Except Error Box :=
  if source = target then .ok value else value.convert target

/-- The argument at a position; a negative position counts from the end. -/
def argument (meaning : Interpretation) (position : Int) : Except Error Box :=
  match memberAt? meaning.args position with
  | some value => .ok value
  | none => .error (.host (.position "tuple"))

mutual

/-- The value of an expression. -/
def value (meaning : Interpretation) (run : Run) : Expr → Except Error Box
  | .literal _ number type => do return .ofScalar (← number.convert type)
  | .identifier var => RunContext.variableValue run var.identifier.id
  | .argument _ position _ => meaning.argument position
  | .binary _ op left right => do
    let leftType := meaning.typing.typeOf left
    let rightType := meaning.typing.typeOf right
    let type := BinaryOp.operandType leftType rightType
    let leftValue ← bring leftType type (← value meaning run left)
    let rightValue ← bring rightType type (← value meaning run right)
    RunContext.applied (Box.binary? op leftValue rightValue)
  | .unary _ op operand => do
    let type := meaning.typing.typeOf operand
    let widened ← bring type (op.widened type) (← value meaning run operand)
    let floated ← bring (op.widened type) (op.floated (op.widened type)) widened
    RunContext.applied (Box.unary? op floated)
  | .cast _ operand type => do
    (← value meaning run operand).convert type
  | .element _ field indices => do
    let leaf ← meaning.leafOf field
    return .ofScalar (← run.storage.read leaf.id (← index meaning run indices))
  | .load _ _ field indices => do
    let leaf ← meaning.leafOf field
    return .ofScalar (← run.storage.read leaf.id (← index meaning run indices))
  | .field field => .error (.lowering (.bareField field.text) none none)

/-- The index that a row of expressions computes. -/
def index (meaning : Interpretation) (run : Run) : List Expr → Except Error (List Int)
  | [] => .ok []
  | first :: rest => do
    let position ← (← value meaning run first).index
    return position :: (← index meaning run rest)

end

/-- The value of what a statement was given, which has to be an expression. -/
def given (meaning : Interpretation) (run : Run) : HostValue → Except Error Box
  | .expr value => meaning.value run value
  | value => .error (.host (.missingAttribute value.className "location"))

/-- Stores a value, in the type of the field's elements, at an element. -/
def store (meaning : Interpretation) (field : Field) (indices : List Expr) (value : Expr) :
    Execute Unit := do
  let run ← get
  let leaf ← Execute.ofExcept (meaning.leafOf field)
  let index ← Execute.ofExcept (meaning.index run indices)
  let box ← Execute.ofExcept (meaning.value run value)
  let box ← Execute.ofExcept
    (bring (meaning.typing.typeOf value) (meaning.typing.ofElements field) box)
  Execute.write leaf.id index box

/-- Sets a variable to a value in the type of the variable. -/
def assign (meaning : Interpretation) (var : Variable) (value : Expr) : Execute Unit := do
  let run ← get
  let box ← Execute.ofExcept (meaning.value run value)
  let box ← Execute.ofExcept
    (bring (meaning.typing.typeOf value) (meaning.typing.ofVariable var.identifier.id) box)
  Execute.setVariable var.identifier.id box

mutual

/-- Runs a statement. -/
def stmt (meaning : Interpretation) : Stmt → Execute Unit
  | .alloca _ identifier _ => do
    match meaning.resetType identifier.id with
    | .unknown => return
    | type =>
      let zero ← Execute.ofExcept ((Literal.int 0).convert type)
      Execute.setVariable identifier.id (.ofScalar zero)
  | .assign _ target value =>
    match target with
    | .element _ field indices => meaning.store field indices value
    | .identifier var => meaning.assign var value
    | target => throw (.quoting target.text fun text => .lowering (.target text) none none)
  | .store _ place value => meaning.store place.field place.indices value
  | .load _ place => do
    let run ← get
    let leaf ← Execute.ofExcept (meaning.leafOf place.field)
    let index ← Execute.ofExcept (meaning.index run place.indices)
    let _ ← Execute.ofExcept (run.storage.read leaf.id index)
  | .print _ printed label => do
    let run ← get
    let value ← Execute.ofExcept (meaning.given run printed)
    let label ← Execute.ofExcept ((meaning.rendering.plain label).mapError .host)
    let scalar ← Execute.ofExcept value.item
    let text ← Execute.ofExcept (scalar.toLiteral.text.mapError .host)
    let line := "[debug] " ++ label ++ " = " ++ text
    modify fun run => { run with lines := run.lines.push line }
  | .branch _ condition onTrue onFalse => do
    let run ← get
    let value ← Execute.ofExcept (meaning.given run condition)
    if ← Execute.ofExcept value.isTrue then block meaning onTrue else block meaning onFalse
  | .loop _ vars (.range first last) _ body => do
    let run ← get
    let begin ← Execute.ofExcept (do (← meaning.value run first).index)
    let stop ← Execute.ofExcept (do (← meaning.value run last).index)
    let counter := (vars.head?.map (·.identifier.id)).getD 0
    Execute.iterate (fun value => do
      Execute.setCounter counter value
      block meaning body) (stop - begin).toNat begin
  | .loop _ vars (.elements field) _ body => do
    let leaf ← Execute.ofExcept (meaning.leafOf field)
    let indices ← Execute.ofExcept ((← get).storage.activeIndices leaf.id)
    indices.forM fun index => do
      (vars.zip index).forM fun (var, position) => Execute.setCounter var.identifier.id position
      block meaning body
  | .bare site? => throw (.target (.statement (Stmt.bare site?).className) site? none)
  | .endless => throw (.host .recursion)

/-- Runs the statements of a block. -/
def block (meaning : Interpretation) : List Stmt → Execute Unit
  | [] => return
  | first :: rest => do
    stmt meaning first
    block meaning rest

end

/-- Interprets a body on a storage. -/
def run (meaning : Interpretation) (storage : Storage) (body : List Stmt) : RunResult :=
  let (outcome, run) := (meaning.block body).run.run ⟨storage, ∅, #[]⟩
  ⟨outcome, run.storage, run.lines⟩

end Interpretation

/-- The interpretation of a body with converted arguments, given the layouts it
was lowered with and how the leaf of a field is found.  The types follow from
the body. -/
def Interpretation.ofBody (layouts : Layouts) (rendering : Rendering)
    (leafOf : Field → Except Error Node) (args : List Box) (body : List Stmt) :
    Interpretation :=
  let leafOf? (field : Field) := (layouts.leafOf? field).map (·.2)
  let types := VariableTypes.none.block leafOf? body
  { typing := types.typing leafOf?
    resetType := types.declared
    leafOf := leafOf
    args := args
    rendering := rendering }

end FieldKernel
