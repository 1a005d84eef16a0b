import FieldKernel.Recording.Schedule

/-!
# Recorded code

The statements of a kernel as a tree: conditionals and loops hold the statements inside them. This
is what recorded code means, what its text shows and what lowering works on. Nothing keeps host
code from nesting a block in itself; where a nesting comes back to itself, the tree has an `endless`
leaf, and whatever goes through the tree fails there.
-/

namespace FieldKernel

/-- What a loop runs over. -/
inductive LoopSource where
  /-- The whole numbers from the first bound up to, and without, the second. -/
  | range (first last : Expr)
  /-- The active elements of a field. -/
  | elements (field : Field)

namespace LoopSource

def isElements : LoopSource → Bool
  | range _ _ => false
  | elements _ => true

end LoopSource

/-- A recorded statement with the statements inside it, and the place it was recorded at. -/
inductive Stmt where
  | alloca (site? : Option Location) (identifier : Identifier) (type : DataType)
  | assign (site? : Option Location) (target value : Expr)
  | load (site? : Option Location) (place : Element)
  | store (site? : Option Location) (place : Element) (value : Expr)
  /-- What is printed, and the condition of a conditional, can be any value of the host. -/
  | print (site? : Option Location) (value label : HostValue)
  | branch (site? : Option Location) (condition : HostValue) (onTrue onFalse : List Stmt)
  | loop (site? : Option Location) (vars : List Variable) (source : LoopSource)
      (schedule : Schedule) (body : List Stmt)
  /-- A statement of no particular kind. -/
  | bare (site? : Option Location)
  | endless

namespace Stmt

/-- The head of a conditional. -/
def branchText (rendering : Rendering) (condition : HostValue) : Except HostFault String := do
  return "if " ++ (← rendering.recorded condition)

def printText (rendering : Rendering) (value label : HostValue) : Except HostFault String := do
  return "print " ++ (← rendering.listing label) ++ " " ++ (← rendering.recorded value)

def variableTexts (vars : List Variable) : String :=
  Expr.commaSeparated (vars.map fun var => var.identifier.text)

/-- The head of a loop. -/
def loopText (rendering : Rendering) (vars : List Variable) (source : LoopSource)
    (schedule : Schedule) : Except HostFault String := do
  match source with
  | .range first last =>
    return "for " ++ variableTexts vars ++ " in range(" ++ (← first.text) ++ ", " ++
      (← last.text) ++ ")" ++ (← schedule.text rendering)
  | .elements field =>
    return "for (" ++ variableTexts vars ++ ") in struct " ++ field.text ++
      (← schedule.text rendering)

/-- The text of a statement without what is inside it. -/
def text (rendering : Rendering) : Stmt → Except HostFault String
  | alloca _ identifier _ => .ok ("alloca " ++ identifier.text)
  | assign _ target value => do return (← target.text) ++ " = " ++ (← value.text)
  | load _ place => do return "gbl load " ++ (← (Expr.ofElement place).text)
  | store _ place value => do
    return "gbl store " ++ (← (Expr.ofElement place).text) ++ " <- " ++ (← value.text)
  | print _ value label => printText rendering value label
  | branch _ condition _ _ => branchText rendering condition
  | loop _ vars source schedule _ => loopText rendering vars source schedule
  | bare _ => .error .notImplemented
  | endless => .error .recursion

def indentation (level : Nat) : String :=
  String.ofList (List.replicate (2 * level) ' ')

mutual

/-- The lines of a statement, its inside between braces. -/
def lines (rendering : Rendering) (level : Nat) : Stmt → Except HostFault (List String)
  | branch _ condition onTrue onFalse => do
    let pad := indentation level
    let head ← branchText rendering condition
    let trueLines ← blockLines rendering (level + 1) onTrue
    let falseLines ← blockLines rendering (level + 1) onFalse
    let otherwise := if onFalse.isEmpty then [] else (pad ++ "\x7d else \x7b") :: falseLines
    return (pad ++ head ++ " \x7b") :: trueLines ++ otherwise ++ [pad ++ "\x7d"]
  | loop _ vars source schedule body => do
    let pad := indentation level
    let head ← loopText rendering vars source schedule
    let bodyLines ← blockLines rendering (level + 1) body
    return (pad ++ head ++ " \x7b") :: bodyLines ++ [pad ++ "\x7d"]
  | statement => do
    let text ← statement.text rendering
    return [indentation level ++ text]

/-- The lines of the statements in a block. -/
def blockLines (rendering : Rendering) (level : Nat) : List Stmt → Except HostFault (List String)
  | [] => .ok []
  | first :: rest => do
    let firstLines ← first.lines rendering level
    let restLines ← blockLines rendering level rest
    return firstLines ++ restLines

end

def blockText (rendering : Rendering) (statements : List Stmt) : Except HostFault String := do
  let lines ← blockLines rendering 0 statements
  return "\n".intercalate lines

def className : Stmt → String
  | alloca _ _ _ => "FrontendAllocaStmt"
  | assign _ _ _ => "FrontendAssignStmt"
  | load _ _ => "GlobalLoadStmt"
  | store _ _ _ => "GlobalStoreStmt"
  | print _ _ _ => "FrontendPrintStmt"
  | branch _ _ _ _ => "FrontendIfStmt"
  | loop _ _ _ _ _ => "FrontendForStmt"
  | bare _ => "Stmt"
  | endless => "Stmt"

mutual

/-- The classes of a statement and of all inside it, in the order they are written. -/
def walk : Stmt → Except HostFault (List String)
  | branch site? condition onTrue onFalse => do
    let trueNames ← blockWalk onTrue
    let falseNames ← blockWalk onFalse
    return (branch site? condition [] []).className :: trueNames ++ falseNames
  | loop site? vars source schedule body => do
    let names ← blockWalk body
    return (loop site? vars source schedule []).className :: names
  | endless => .error .recursion
  | statement => .ok [statement.className]

/-- The classes of the statements in a block and of all inside them. -/
def blockWalk : List Stmt → Except HostFault (List String)
  | [] => .ok []
  | first :: rest => do
    let names ← first.walk
    let others ← blockWalk rest
    return names ++ others

end

end Stmt

end FieldKernel
