import FieldKernel.IR.Basic

/-!
# Kernels

A kernel is recorded code with a name and typed arguments. It keeps how far it has come, what it was
compiled to last, and why compiling it failed.
-/

namespace FieldKernel

/-- How far a kernel has come. -/
inductive KernelState where
  | defining
  | defined
  | compiled
  | invoked
  | failed
  deriving DecidableEq, Repr

namespace KernelState

def name : KernelState → String
  | defining => "defining"
  | defined => "defined"
  | compiled => "compiled"
  | invoked => "invoked"
  | failed => "failed"

end KernelState

/-- The result of compiling a kernel. -/
structure CompiledKernel where
  ir : KernelIR
  fingerprint : Arch

namespace CompiledKernel

/-- A compiled kernel with all its parts by name. -/
def listing (compiled : CompiledKernel) (rendering : Rendering) : Except HostFault String := do
  return Listing.record "CompiledKernel"
    [("ir", ← compiled.ir.listing rendering),
      ("fingerprint", Listing.row [Text.quoted compiled.fingerprint.name])]

end CompiledKernel

/-- A recorded kernel. -/
structure Kernel where
  program : Nat
  name : String
  argTypes : List DataType
  /-- The number of the kernel in its program; host code can give any. -/
  id : Int
  body : Nat
  state : KernelState
  compileCount : Nat
  /-- What the kernel was compiled to last, by its number among all compiled kernels. -/
  compiled? : Option Nat
  /-- The reasons why compiling failed, by what was compiled for. -/
  failures : List (Arch × Error)

namespace Kernel

def text (kernel : Kernel) : String :=
  "Kernel(" ++ Text.quoted kernel.name ++ ", state=" ++ kernel.state.name ++ ")"

end Kernel

end FieldKernel
