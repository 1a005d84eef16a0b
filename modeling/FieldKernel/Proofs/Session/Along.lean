import FieldKernel.Proofs.Session.Changes

/-!
# What holds all along a course

A relation between sessions that allows for whatever is done at once holds
between the session in which a course begins and every session on the way: at
each turn of host code, and at the end.
-/

namespace FieldKernel

/-- A relation between sessions allows for whatever is done at once. -/
structure Session.Allows (relation : Session → Session → Prop) : Prop where
  changed {before after : Session} (changed : Action.Changed before after) : relation before after
  records (builder : Nat) (operation : Operation) (session : Session) :
    relation session ((Action.record builder operation.perform).run.run session).2
  founds (config? : Option CompileConfig) (session : Session) :
    relation session ((Action.newProgram config?).run.run session).2
  ends (program : Nat) (session : Session) :
    relation session ((Action.teardown program).run.run session).2
  abandons (kernel : Nat) (error : Error) (session : Session) :
    relation session ((Action.abandon kernel error).run.run session).2
  registers (kernel : Nat) (session : Session) :
    relation session ((Action.register kernel).run.run session).2

namespace HostT

variable {relation : Session → Session → Prop}

/-- At every turn on the way, and at the end, a session is related to that of the
start. -/
def Along (relation : Session → Session → Prop) (start final : Session × List Turn) : Prop :=
  ∃ turns, final.2 = start.2 ++ turns ∧
    ∀ session ∈ turns.map Turn.session ++ [final.1], relation start.1 session

theorem along_of {before after : Session} {written : List Turn} (related : relation before after) :
    Along relation (before, written) (after, written) :=
  ⟨[], (List.append_nil _).symm, fun _ member => List.mem_singleton.mp member ▸ related⟩

theorem lift_along {α : Type} {action : Action α}
    (related : ∀ session : Session, relation session (action.run.run session).2) :
    Follows (Along relation) (lift action) :=
  fun start => along_of (related start.1)

variable [IsPreorder Session relation]

instance : IsPreorder (Session × List Turn) (Along relation) where
  refl start := along_of (refl_of relation start.1)
  trans := by
    rintro start middle final ⟨first, written, before⟩ ⟨second, written', after⟩
    refine ⟨first ++ second, by rw [written', written, List.append_assoc], fun session member => ?_⟩
    have reaches := before middle.1 (List.mem_append_right _ (List.mem_singleton_self _))
    rw [List.map_append, List.append_assoc] at member
    rcases List.mem_append.mp member with early | late
    · exact before session (List.mem_append_left _ early)
    · exact trans_of relation reaches (after session late)

theorem turn_along (opens? : Option Nat) : Follows (Along relation) (turn opens?) := by
  intro start
  rw [outcome_turn]
  refine ⟨[⟨start.1, opens?⟩], rfl, fun session member => ?_⟩
  obtain rfl : session = start.1 := by simpa using member
  exact refl_of relation _

end HostT

namespace Session.Allows

variable {relation : Session → Session → Prop} (allows : Allows relation)

include allows

/-- What an operation is recorded with does not depend on its answer. -/
theorem recorded (operation : Operation) {α : Type} {attempt : Record α} {answer : α → HostValue}
    (performs : operation.perform = answer <$> attempt) (builder : Nat) (session : Session) :
    relation session ((Action.record builder attempt).run.run session).2 := by
  have related := allows.records builder operation session
  rw [HostT.run_record, performs, run_run_map] at related
  rwa [HostT.run_record]

theorem call {α : Type} (call : Call α) (session : Session) :
    relation session (call.perform.run.run session).2 := by
  have plainly {call : Call α} (plain : call.plain) :
      relation session (call.perform.run.run session).2 :=
    allows.changed (Action.keeps_iff.mp (Call.changes plain session) session .refl)
  cases call with
  | record builder operation => exact allows.records builder operation session
  | newProgram config? => exact allows.founds config? session
  | teardown program => exact allows.ends program session
  | _ => exact plainly rfl

theorem changes : HostT.AdmitsChanges (HostT.Along relation) :=
  fun _ _ _ changed => HostT.along_of (allows.changed changed)

variable [IsPreorder Session relation]

/-- A definition is made up of what is done at once and of its callback. -/
theorem defines (program : Nat) (name : String) (types : List HostValue)
    {callback : List Expr → HostT (StateM (List Turn)) Unit}
    (follows : ∀ arguments, HostT.Follows (HostT.Along relation) (callback arguments)) :
    HostT.Follows (HostT.Along relation) (HostT.define program name types callback) := by
  have enters (builder : Nat) (scope : HostValue) : HostT.Follows (HostT.Along relation)
      (HostT.lift (Action.record builder (Record.enterRoot scope))) :=
    HostT.lift_along (allows.recorded (.enterRoot scope) rfl builder)
  have exits (builder : Nat) : HostT.Follows (HostT.Along relation)
      (HostT.lift (Action.record builder Record.exitRoot)) :=
    HostT.lift_along (allows.records builder .exitRoot)
  have body (kernel : Nat) :
      HostT.Follows (HostT.Along relation) (HostT.recordBody kernel callback) := by
    refine .bind (fun start => refl_of (HostT.Along relation) start) fun _ => ?_
    refine (enters _ _).bind fun _ => ?_
    refine .bind (.observe (allows.changes.recorded (exits _) _ follows)) fun outcome => ?_
    cases outcome with
    | ok result => exact .pure result
    | error error =>
        dsimp only
        split
        · exact .throw error
        · exact (HostT.lift_along (allows.abandons kernel error)).bind fun _ => .throw error
  refine (allows.changes.lift fun _ => Action.checkAlive_changes program).bind fun _ => ?_
  refine (allows.changes.lift fun _ => .ask _).bind fun argTypes => ?_
  refine (allows.changes.lift fun _ => Action.nextKernel_changes program name argTypes).bind
    fun kernel => ?_
  exact (allows.changes.activated program (body kernel)).bind fun _ =>
    (HostT.lift_along (allows.registers kernel)).bind fun _ => .pure kernel

theorem admits : HostT.Admits (HostT.Along relation) where
  turn := HostT.turn_along
  changes := allows.changes
  call called := (HostT.turn_along called.opens?).bind fun _ =>
    .observe (HostT.lift_along (allows.call called))
  ends program := HostT.lift_along (allows.ends program)
  leaves builder guard failed :=
    HostT.lift_along (allows.recorded (.leave guard failed) rfl builder)
  defines program name types _ follows := allows.defines program name types follows

/-- Whatever host code does, it ends in a session that is related to the one it
has begun in. -/
theorem course (course : Course) (start : Session × List Turn) :
    relation start.1 (HostT.outcome course.perform start).2.1 := by
  obtain ⟨turns, _, related⟩ := allows.admits.course course start
  exact related _ (List.mem_append_right _ (List.mem_singleton_self _))

end Session.Allows

end FieldKernel
