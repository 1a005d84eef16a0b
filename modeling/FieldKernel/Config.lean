import FieldKernel.HostValue
import FieldKernel.Text.Blank
import FieldKernel.Text.LowerCase

/-!
# Compile configuration

The target that kernels are lowered for and the switch that lists lowered code. A target is set
either as a member of the closed set of targets or by its name.
-/

namespace FieldKernel

/-- A target that kernels are lowered for. -/
inductive Arch where
  | x86
  | gpu
  deriving DecidableEq, Repr

namespace Arch

def all : List Arch :=
  [x86, gpu]

def name : Arch → String
  | x86 => "x86_64"
  | gpu => "gpu"

def ofName? (name : String) : Option Arch :=
  all.find? (·.name = name)

theorem ofName?_name (arch : Arch) : ofName? arch.name = some arch := by
  cases arch <;> decide

/-- The name in a setting: blanks around it and its case do not matter. -/
def settingName (setting : String) : String :=
  Text.lower (Text.trim setting)

/-- The target that a setting asks for, or the name that is none; no setting means `x86`. -/
def ofSetting : Option String → Except String Arch
  | none => .ok x86
  | some setting =>
    match ofName? (settingName setting) with
    | some arch => .ok arch
    | none => .error (settingName setting)

end Arch

/-- A target as it is kept in a configuration: a member of the set, or a name taken as it is. -/
inductive ArchSetting where
  | member (arch : Arch)
  | named (name : String)
  deriving DecidableEq, Repr

namespace ArchSetting

/-- The target that is meant, unless the name is unknown. -/
def arch? : ArchSetting → Option Arch
  | member arch => some arch
  | named name => Arch.ofName? name

end ArchSetting

/-- What kernels are lowered for, and whether their code is listed when they compile. The switch
keeps the value that it was set to. -/
structure CompileConfig where
  target : ArchSetting
  printIR : HostValue

namespace CompileConfig

/-- The configuration that nothing has changed. -/
def initial : CompileConfig :=
  ⟨.member .x86, .bool 0 false⟩

/-- What distinguishes compiled code: the target that is meant. Listing the code does not change
it. -/
def fingerprint? (config : CompileConfig) : Option Arch :=
  config.target.arch?

end CompileConfig

end FieldKernel
