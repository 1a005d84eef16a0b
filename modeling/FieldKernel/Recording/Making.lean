import FieldKernel.Recording.Builder

/-!
# Making blocks and statements

Blocks and statements can be made on their own, without a builder and without a scope. A statement
that was made so is put into a block later, or never.
-/

namespace FieldKernel.Record

/-- Makes a block that is inside of no statement. -/
def newBlock (label : String) : Record Nat :=
  addTo (·.addBlock none label)

def newAssign (target value : HostValue) : Record Nat := do
  let value ← build (Build.valueExpr value)
  let target ← Ask.expr target "is_lvalue"
  unless target.isLvalue do
    throw (.quoting target.text fun text => .lvalue (.assignment text))
  addTo (·.addStatement (.assign target value))

def newStore (place value : HostValue) : Record Nat := do
  match place with
  | .expr (.element key field indices) =>
    let value ← build (Build.valueExpr value)
    addTo (·.addStatement (.store ⟨key, field, indices⟩ value))
  | place => throw (.lvalue (.store (← Ask.recorded place)))

def newLoad (place : HostValue) : Record Nat := do
  let place ← Ask.placeToLoad place
  addTo (·.addStatement (.load place))

/-- Makes a declaration of the variable that a value names. -/
def newAlloca (var : HostValue) (type? : Option HostValue) : Record Nat := do
  let identifier ← Ask.identifier var
  let type ←
    match type? with
    | some type => Ask.dataType type
    | none => pure DataType.unknown
  addTo (·.addStatement (.alloca identifier type))

/-- Makes a printing statement of any value as it is. -/
def newPrint (value label : HostValue) : Record Nat :=
  addTo (·.addStatement (.print value label))

/-- Makes a conditional on any value as it is. -/
def newBranch (condition : HostValue) : Record Nat :=
  addTo (·.addBranch condition)

/-- Makes a loop over a range, with the bounds as they are. -/
def newRange (var first last : HostValue) : Record Nat := do
  let first ← build (Build.expr first)
  let last ← build (Build.expr last)
  let vars ← loopVariables [var]
  addTo (·.addLoop vars (.range first last))

/-- Makes a loop over the elements of a field, with any number of variables. -/
def newElements (vars field : HostValue) : Record Nat := do
  let field ← loopField field
  let vars ← loopVariables (← Ask.members vars)
  addTo (·.addLoop vars (.elements field))

def newBare : Record Nat :=
  addTo (·.addStatement .bare)

/-- Sets the place at which a statement was recorded. -/
def locate (statement : Nat) (location : Location) : Record Unit :=
  modifyRecording (·.modifyStatement statement fun entry =>
    { entry with location? := some location })

/-- Sets a hint of a loop to any value. -/
def setHint (loop : Nat) (kind : HintKind) (value : HintValue) : Record Unit :=
  modifyRecording (·.setHint loop kind value)

end FieldKernel.Record
