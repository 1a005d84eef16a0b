import FieldKernel.Proofs.Recording.Operations
import FieldKernel.Proofs.Session.Scripts

/-!
# Courses of host code

A course says what host code does with programs, kernels, layouts, fields and
builders: it calls one thing after the other and goes on with a course for each
outcome, and it has courses inside of definitions, activations, layouts and
scopes.  Whenever it is the turn of host code, the session is written down,
together with the builder that a scope is opened with next.
-/

namespace FieldKernel

/-- What host code calls, by what it answers with. -/
inductive Call : Type → Type where
  | record (builder : Nat) (operation : Operation) : Call HostValue
  | make (operation : Operation) : Call HostValue
  | newBuilder : Call Nat
  | newProgram (config? : Option CompileConfig) : Call Nat
  | enter (program : Nat) : Call Unit
  | teardown (program : Nat) : Call Unit
  | setTarget (program : Nat) (target : ArchSetting) : Call Unit
  | root (program : Nat) : Call NodeRef
  | newTree (program? : Option Nat) : Call NodeRef
  | declare (above : NodeRef) (kind : LevelKind) (axes extents : HostValue) : Call NodeRef
  | place (above : NodeRef) (fields : List HostValue) : Call Unit
  | sealTree (node : NodeRef) : Call Unit
  | newKernel (program : Nat) (name : String) (types : List DataType) (id : Int) : Call Nat
  | compile (kernel : Nat) : Call Nat
  | call (kernel : Nat) (args : List HostValue) : Call Unit
  | execute (ir : KernelIR) (target : HostValue) (args : List HostValue) : Call Unit
  | cacheStats (program : Nat) (reset : Bool) : Call CacheStats
  | profile (program : Nat) (reset : Bool) : Call Tally
  | readField (target : HostValue) (index : List HostValue) : Call Scalar
  | writeField (target : HostValue) (index : List HostValue) (value : HostValue) : Call Unit
  | storageOf (program : Nat) : Call Nat
  | newStorage (top? : Option NodeRef) : Call Nat
  | readAt (storage : Nat) (field : HostValue) (index : List HostValue) : Call Scalar
  | writeAt (storage : Nat) (field : HostValue) (index : List HostValue) (value : HostValue) :
      Call Unit
  | activeAt (storage : Nat) (field : HostValue) (index : List HostValue) : Call Bool
  | gridOf (storage : Nat) (field : HostValue) : Call (Grid Scalar)
  | activeOf (storage : Nat) (field : HostValue) : Call (List (List Nat) × Grid Bool)

/-- Only two operations open a scope where there is none. -/
def Operation.opens : Operation → Bool
  | createScope _ => true
  | enterRoot _ => true
  | _ => false

namespace Call

variable {α : Type}

/-- What is done when something is called. -/
def perform : Call α → Action α
  | record builder operation => Action.record builder operation.perform
  | make operation => Action.recordFree operation.perform
  | newBuilder => Action.addBuilder
  | newProgram config? => Action.newProgram config?
  | enter program => Action.enter program
  | teardown program => Action.teardown program
  | setTarget program target => Action.setTarget program target
  | root program => Action.root program
  | newTree program? => Action.addTree program?
  | declare above kind axes extents => Action.declare above kind axes extents
  | place above fields => Action.place above fields
  | sealTree node => Action.sealTree node
  | newKernel program name types id => Action.addKernel program name types id
  | compile kernel => Action.compile kernel
  | call kernel args => Action.call kernel args
  | execute ir target args => Action.executeOn ir target args
  | cacheStats program reset => Action.cacheStats program reset
  | profile program reset => Action.profile program reset
  | readField target index => Action.readField target index
  | writeField target index value => Action.writeField target index value
  | storageOf program => Action.storageOf program
  | newStorage top? => Action.newStorage top?
  | readAt storage field index => Action.readAt storage field index
  | writeAt storage field index value => Action.writeAt storage field index value
  | activeAt storage field index => Action.activeAt storage field index
  | gridOf storage field => Action.gridOf storage field
  | activeOf storage field => Action.activeOf storage field

/-- The builder that a scope is opened with. -/
def opens? : Call α → Option Nat
  | record builder operation => if operation.opens then some builder else none
  | _ => none

end Call

/-- What host code does. -/
inductive Course : Type 1 where
  | finish
  | raise (error : Error)
  | call {α : Type} (called : Call α) (next : Except Error α → Course)
  | define (program : Nat) (name : String) (types : List HostValue) (body : List Expr → Course)
      (next : Except Error Nat → Course)
  | activated (program : Nat) (body : Course) (next : Except Error Unit → Course)
  | during (program : Nat) (body : Course) (next : Except Error Unit → Course)
  | inScope (builder : Nat) (guard : Guard) (body : Course) (next : Except Error Unit → Course)
  | layout (program : Nat) (body : HostValue → Course) (next : Except Error NodeRef → Course)
  | layoutAt (root : HostValue) (body : HostValue → Course) (next : Except Error NodeRef → Course)

/-- It is the turn of host code in a session, and it opens a scope with a builder
or does something else. -/
structure Turn where
  session : Session
  opens? : Option Nat

/-- Writes down a turn. -/
def HostT.turn (opens? : Option Nat) : HostT (StateM (List Turn)) Unit :=
  ExceptT.mk fun session => do
    modify (· ++ [⟨session, opens?⟩])
    return (.ok (), session)

theorem HostT.outcome_turn (opens? : Option Nat) (start : Session × List Turn) :
    outcome (turn opens?) start = (.ok (), start.1, start.2 ++ [⟨start.1, opens?⟩]) :=
  rfl

/-- Does what a course says and writes down the turns. -/
def Course.perform : Course → HostT (StateM (List Turn)) Unit
  | finish => HostT.turn none
  | raise error => do
    HostT.turn none
    throw error
  | call called next => do
    HostT.turn called.opens?
    let outcome ← HostT.observe (HostT.lift called.perform)
    (next outcome).perform
  | define program name types body next => do
    HostT.turn none
    let outcome ← HostT.observe
      (HostT.define program name types fun arguments => (body arguments).perform)
    (next outcome).perform
  | activated program body next => do
    HostT.turn none
    let outcome ← HostT.observe (HostT.activated program body.perform)
    (next outcome).perform
  | during program body next => do
    HostT.turn none
    let outcome ← HostT.observe (HostT.during program body.perform)
    (next outcome).perform
  | inScope builder guard body next => do
    HostT.turn none
    let outcome ← HostT.observe (HostT.inScope builder guard body.perform)
    (next outcome).perform
  | layout program body next => do
    HostT.turn none
    let outcome ← HostT.observe (HostT.layout program fun root => (body root).perform)
    (next outcome).perform
  | layoutAt root body next => do
    HostT.turn none
    let outcome ← HostT.observe (HostT.declareLayout root fun root => (body root).perform)
    (next outcome).perform

end FieldKernel
