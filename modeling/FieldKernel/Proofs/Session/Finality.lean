import FieldKernel.Proofs.Session.CurrentPrograms
import FieldKernel.Proofs.Session.Endings

/-!
# What is left of a program after its end

Courses of host code are followed turn by turn.  No turn finds a program back
that has ended before, and at each of them everything that is asked of it is
refused.  The one thing that can still happen to it is that a kernel is
registered whose definition was under way at the end, and that takes a scope
that host code has opened by hand.
-/

namespace FieldKernel

/-- Host code opens no scope with the builder of a program that has ended. -/
def Quiet (program : Nat) (turns : List Turn) : Prop :=
  ∀ turn ∈ turns, turn.session.Gone program →
    turn.opens? ≠ some (turn.session.program program).builder

instance (program : Nat) (turns : List Turn) : Decidable (Quiet program turns) :=
  inferInstanceAs (Decidable (∀ turn ∈ turns, _ → _))

theorem Call.leads {α : Type} (call : Call α) {program : Nat} {quiet : Prop} {session : Session}
    (spares : quiet → session.Gone program →
      call.opens? ≠ some (session.program program).builder) :
    session.Leads program quiet (call.perform.run.run session).2 := by
  have led {call : Call α} (plain : call.plain) :
      session.Leads program quiet (call.perform.run.run session).2 :=
    (Action.leads_of_keeps (Call.changes plain) session).mono fun _ => trivial
  cases call with
  | record builder operation =>
      refine session.leads_having fun holds _ gone same empty => ?_
      have closed : operation.opens = false := by
        have spared := spares holds gone
        rw [Call.opens?, ← same] at spared
        simpa using spared
      exact Operation.vacates closed (session.recorder (session.builder builder)) empty
  | newProgram config? => exact session.leads_newProgram config?
  | teardown program => exact session.leads_teardown program
  | _ => exact led rfl

/-- Two rows in which everything is related to what comes later, the second of
which begins where the first ends, are one row. -/
theorem pairwise_joined {α : Type} {relation : α → α → Prop} [IsTrans α relation]
    {first second : List α} {start middle final : α}
    (before : (start :: (first ++ [middle])).Pairwise relation)
    (after : (middle :: (second ++ [final])).Pairwise relation) :
    (start :: (first ++ second ++ [final])).Pairwise relation := by
  have whole : ((start :: first ++ [middle]) ++ (second ++ [final])).Pairwise relation := by
    obtain ⟨ahead, rest⟩ := List.pairwise_cons.mp after
    refine List.pairwise_append.mpr ⟨before, rest, fun one among other later => ?_⟩
    rcases List.mem_append.mp among with among | among
    · have reaches := (List.pairwise_append.mp before).2.2 one among middle
        (List.mem_singleton_self middle)
      exact trans_of relation reaches (ahead other later)
    · rw [List.mem_singleton.mp among]
      exact ahead other later
  refine whole.sublist ?_
  simp

theorem Quiet.left {program : Nat} {first second : List Turn}
    (quiet : Quiet program (first ++ second)) : Quiet program first :=
  fun turn member => quiet turn (List.mem_append_left second member)

theorem Quiet.right {program : Nat} {first second : List Turn}
    (quiet : Quiet program (first ++ second)) : Quiet program second :=
  fun turn member => quiet turn (List.mem_append_right first member)

instance (program : Nat) (quiet : Prop) : IsPreorder Session (Session.Leads program quiet) where
  refl := .refl program quiet
  trans _ _ _ := .trans

namespace HostT

variable {α : Type} {program : Nat}

/-- Every session on the way leads to every later one, as long as host code is
quiet. -/
def Tracks (program : Nat) (start final : Session × List Turn) : Prop :=
  ∃ turns, final.2 = start.2 ++ turns ∧
    (start.1 :: (turns.map Turn.session ++ [final.1])).Pairwise
      (Session.Leads program (Quiet program turns))

theorem tracks_of_leads {before after : Session} {written : List Turn}
    (leads : before.Leads program True after) :
    Tracks program (before, written) (after, written) :=
  ⟨[], (List.append_nil _).symm, List.pairwise_pair.mpr (leads.mono fun _ => trivial)⟩

instance : IsPreorder (Session × List Turn) (Tracks program) where
  refl _ := tracks_of_leads (.refl program True _)
  trans := by
    rintro start middle final ⟨first, written, before⟩ ⟨second, written', after⟩
    refine ⟨first ++ second, by rw [written', written, List.append_assoc], ?_⟩
    rw [List.map_append]
    exact pairwise_joined (before.imp fun leads => leads.mono Quiet.left)
      (after.imp fun leads => leads.mono Quiet.right)

/-- What comes last adds no turn, and may depend on host code having been quiet. -/
theorem Tracks.last {start : Session × List Turn} {middle after : Session} {written : List Turn}
    (tracks : Tracks program start (middle, written))
    (leads : ∀ {quiet : Prop}, start.1.Leads program quiet middle →
      middle.Leads program quiet after) : Tracks program start (after, written) := by
  obtain ⟨turns, more, before⟩ := tracks
  refine ⟨turns, more, ?_⟩
  dsimp only at before
  have reaches : start.1.Leads program (Quiet program turns) middle :=
    (List.pairwise_cons.mp before).1 middle (by simp)
  have ending : (middle :: ([] ++ [after])).Pairwise
      (Session.Leads program (Quiet program turns)) := List.pairwise_pair.mpr (leads reaches)
  have whole := pairwise_joined before ending
  rwa [List.append_nil] at whole

theorem tracks_changes : AdmitsChanges (Tracks program) :=
  fun _ _ _ changed => tracks_of_leads (Session.leads_of_changed changed)

theorem lift_tracks {action : Action α}
    (leads : ∀ session : Session, session.Leads program True (action.run.run session).2) :
    Follows (Tracks program) (lift action) :=
  fun start => tracks_of_leads (leads start.1)

/-- A turn is written down, and then something happens. -/
theorem tracks_of_turn {session after : Session} {written : List Turn} {opens? : Option Nat}
    (leads : session.Leads program (Quiet program [⟨session, opens?⟩]) after) :
    Tracks program (session, written) (after, written ++ [⟨session, opens?⟩]) := by
  refine ⟨[⟨session, opens?⟩], rfl, ?_⟩
  simp only [List.map_cons, List.map_nil, List.cons_append, List.nil_append]
  refine List.pairwise_cons.mpr ⟨fun other later => ?_, List.pairwise_pair.mpr leads⟩
  rcases List.mem_pair.mp later with rfl | rfl
  · exact .refl program _ other
  · exact leads

theorem turn_tracks (opens? : Option Nat) : Follows (Tracks program) (turn opens?) :=
  fun start => tracks_of_turn (.refl program _ start.1)

theorem call_tracks (called : Call α) :
    Follows (Tracks program) (turn called.opens? >>= fun _ => observe (lift called.perform)) := by
  rintro ⟨session, written⟩
  rw [outcome_bind, outcome_turn]
  dsimp only
  rw [outcome_observe, outcome_lift]
  exact tracks_of_turn (called.leads fun quiet => quiet _ (List.mem_singleton_self _))

/-- A kernel is registered for a program that is alive, or for another one. -/
theorem leads_register {quiet : Prop} {session : Session} {kernel : Nat}
    (spares : quiet → session.Gone program → (session.kernel kernel).program ≠ program) :
    session.Leads program quiet ((Action.register kernel).run.run session).2 := by
  let named : Session := { session with
    programs := session.programs.modify (session.kernel kernel).program fun entry =>
      { entry with
        kernels := (Action.registered (session.kernel kernel).name kernel entry.kernels) } }
  have registers : session.Leads program quiet named :=
    Session.leads_modifyProgram _ (fun _ => rfl) (fun _ => rfl) (fun _ => rfl) (fun _ => rfl)
      fun holds same gone => absurd same (spares holds (same ▸ gone))
  have states : named.Leads program quiet
      (named.changed kernel fun entry => { entry with state := .defined }) :=
    Session.leads_modifyKernel kernel fun _ => rfl
  exact (registers.trans states).trans (Session.Same.leads ⟨rfl, rfl, rfl⟩ rfl)

theorem abandon_leads (kernel : Nat) (error : Error) (session : Session) :
    session.Leads program True ((Action.abandon kernel error).run.run session).2 := by
  let emptied : Session := session.having (session.program (session.kernel kernel).program).builder
    { session.recorder (session.builder (session.program (session.kernel kernel).program).builder)
      with builder := .empty }
  have resets : session.Leads program True emptied :=
    session.leads_having fun _ _ _ _ _ => rfl
  have fails : emptied.Leads program True
      (emptied.changed kernel fun entry => { entry with state := .failed }) :=
    Session.leads_modifyKernel kernel fun _ => rfl
  exact (resets.trans fails).trans (Session.Same.leads ⟨rfl, rfl, rfl⟩ rfl)

theorem abandoned_leads (kernel : Nat) (error : Error) (session : Session) :
    session.Leads program True (abandoned kernel error session) := by
  rw [abandoned]
  split
  · exact .refl program True session
  · exact abandon_leads kernel error session

/-- A definition begins with a scope of its own, which is not with the builder of
a program that has ended. -/
theorem leads_enterRoot {session : Session} {other : Nat}
    (alive : (session.program other).alive) (scope : HostValue) :
    session.Leads program True
      ((Action.record (session.program other).builder (Record.enterRoot scope)).run.run
        session).2 := by
  refine session.leads_having fun _ tidy gone same _ => ?_
  have different : other ≠ program := by
    rintro rfl
    rw [gone.2] at alive
    cases alive
  exact absurd same (tidy.apart gone.1 (session.lt_of_alive alive) different)

/-- If a definition of a program succeeds in closing its scope, the program is
alive, or host code was not quiet. -/
theorem alive_of_exitRoot {session : Session} (idle : session.Idle program)
    (known : program < session.programs.size)
    (closes : ((Action.record (session.program program).builder Record.exitRoot).run.run
      session).1.isOk) : (session.program program).alive := by
  by_contra dead
  obtain ⟨_, empty⟩ := idle ⟨known, by simpa using dead⟩
  have inside : (session.recorder (session.builder (session.program program).builder)).builder.stack
      = [] := empty
  rw [run_record, Record.exitRoot_of_vacant inside] at closes
  cases closes

theorem leads_leaving {quiet : Prop} (session : Session) (other : Nat) :
    session.Leads program quiet (session.leaving other) :=
  (session.same_leaving other).leads rfl

/-- The scope of a definition is closed and the kernel registered: the program is
alive then, unless host code was not quiet. -/
theorem leads_closing {quiet : Prop} {session middle closed : Session} {kernel other : Nat}
    {scope : HostValue} (leads : session.Leads program quiet middle)
    (known : other < session.programs.size) (made : kernel < session.kernels.size)
    (owner : (session.kernel kernel).program = other)
    (closes : (Action.record (session.program other).builder Record.exitRoot).run.run middle =
      (.ok scope, closed)) :
    middle.Leads program quiet
      ((Action.register kernel).run.run (closed.leaving other)).2 := by
  have closing : middle.Leads program True closed := by
    have ends := @Action.record_leads _ program (session.program other).builder _
      Record.exitRoot_vacates middle
    rwa [closes] at ends
  have leaving : middle.Leads program True (closed.leaving other) :=
    closing.trans (leads_leaving closed other)
  have held : ((closed.leaving other).kernel kernel).program = other := by
    rw [leaving.made (made.trans_le leads.kernels), leads.made made, owner]
  by_cases same : other = program
  swap
  · exact (leaving.mono fun _ => trivial).trans (leads_register fun _ _ => held ▸ same)
  subst same
  have registers : middle.Leads other False
      ((Action.register kernel).run.run (closed.leaving other)).2 :=
    (leaving.mono fun _ => trivial).trans (leads_register False.elim)
  refine { registers with idle := fun _ _ idle gone => ?_ }
  have alive : (middle.program other).alive := by
    refine alive_of_exitRoot idle (known.trans_le leads.size) ?_
    rw [leads.owner known, closes]
    rfl
  obtain ⟨final, run, _, _, _, _, programs⟩ := run_register (closed.leaving other) kernel
  have same : closed.programs = middle.programs :=
    congrArg (fun ended => Session.programs ended.2) closes.symm
  have still : (final.program other).alive = (middle.program other).alive := by
    rw [alive_modified programs (fun _ => rfl) other, Session.program_leaving, Session.program,
      same, Session.program]
  rw [run] at gone
  have dead := gone.2
  rw [still, alive] at dead
  cases dead

section Recorded

variable {builder : Nat} {argTypes : List DataType}
  {callback : List Expr → HostT (StateM (List Turn)) Unit}

theorem recorded_fails (follows : ∀ arguments, Follows (Tracks program) (callback arguments))
    {start final : Session × List Turn} {error : Error}
    (fails : outcome (recorded builder argTypes callback) start = (.error error, final)) :
    Tracks program start final := by
  have tracks : Follows (Tracks program) (recorded builder argTypes callback) :=
    tracks_changes.recorded (lift_tracks (Action.record_leads builder Record.exitRoot_vacates))
      argTypes follows
  have reaches := tracks start
  rwa [fails] at reaches

/-- A kernel is defined when the scope of its body has been closed. -/
theorem recorded_closes (follows : ∀ arguments, Follows (Tracks program) (callback arguments))
    {start : Session × List Turn} {closed : Session} {written : List Turn}
    (completes : outcome (recorded builder argTypes callback) start = (.ok (), closed, written)) :
    ∃ middle scope, Tracks program start (middle, written) ∧
      (Action.record builder Record.exitRoot).run.run middle = (.ok scope, closed) := by
  let body := lift (Action.build (Build.arguments argTypes)) >>= callback
  have split : recorded builder argTypes callback =
      body >>= fun _ => lift (Action.record builder Record.exitRoot) >>= fun _ => pure () := by
    rw [bind_assoc]
    rfl
  have called : Tracks program start (outcome body start).2 :=
    (tracks_changes.lift fun _ => Action.build_changes _).bind follows start
  rw [split, outcome_bind] at completes
  revert completes called
  rcases outcome body start with ⟨error | result, middle, own⟩
  · intro completes
    cases completes
  intro completes called
  dsimp only at completes
  rw [outcome_bind, outcome_lift] at completes
  cases closes : (Action.record builder Record.exitRoot).run.run middle with
  | mk ended final =>
    rw [closes] at completes
    cases ended with
    | error error => cases completes
    | ok scope =>
        cases completes
        exact ⟨middle, scope, called, closes⟩

end Recorded

theorem define_tracks (other : Nat) (name : String) (types : List HostValue)
    {callback : List Expr → HostT (StateM (List Turn)) Unit}
    (follows : ∀ arguments, Follows (Tracks program) (callback arguments)) :
    Follows (Tracks program) (define other name types callback) := by
  rintro ⟨session, written⟩
  by_cases alive : (session.program other).alive
  swap
  · rw [outcome_define_of_dead name types callback (by simpa using alive)]
    exact refl_of (Tracks program) _
  rw [outcome_define name types callback alive]
  rcases types.mapM Ask.dataType session.toObjects with error | argTypes
  · exact refl_of (Tracks program) _
  let begun := (session.preparing other name argTypes).entering other
  have kernel : begun.kernel session.kernels.size = ⟨other, name, argTypes,
      (session.program other).nextKernel, session.recording.blocks.size, .defining, 0, none, []⟩ :=
    session.kernel_preparing other name argTypes
  have made : session.kernels.size < begun.kernels.size := by
    simp [begun, Session.entering, Session.preparing]
  have still : (begun.program other).alive := by
    obtain ⟨number, entry⟩ := session.program_preparing other name argTypes other
    rw [Session.program_entering, entry]
    exact alive
  have begins : Tracks program (session, written) (begun, written) :=
    tracks_of_leads ((Action.leads_of_keeps (fun _ => Action.nextKernel_changes other name argTypes)
      session).trans ((Session.same_entering _ other).leads rfl))
  refine trans_of (Tracks program) begins ?_
  have opening : begun.Leads program True _ :=
    leads_enterRoot still (.block (begun.kernel session.kernels.size).body)
  dsimp only
  rw [outcome_recordBody session.kernels.size callback
    (show (begun.program (begun.kernel session.kernels.size).program).builder =
      (begun.program other).builder by rw [kernel])]
  revert opening
  rcases (Action.record _ _).run.run begun with ⟨error | guard, opened⟩
  · intro opening
    exact tracks_of_leads (opening.trans (leads_leaving opened other))
  intro opening
  have opens : Tracks program (begun, written) (opened, written) := tracks_of_leads opening
  dsimp only
  cases records : outcome (recorded (begun.program other).builder
      (begun.kernel session.kernels.size).argTypes callback) (opened, written) with
  | mk ended final =>
    cases ended with
    | error error =>
        have ends : Tracks program (opened, written) final := recorded_fails follows records
        have givesUp := @abandoned_leads program session.kernels.size error final.1
        exact trans_of (Tracks program) opens (trans_of (Tracks program) ends
          (tracks_of_leads (givesUp.trans (leads_leaving _ other))))
    | ok completed =>
        obtain ⟨middle, scope, reaches, closes⟩ := recorded_closes follows records
        refine (trans_of (Tracks program) opens reaches).last fun leads => ?_
        exact leads_closing leads (begun.lt_of_alive still) made (by rw [kernel]) closes

/-- Host code leads on whatever it does. -/
theorem tracks_admits (program : Nat) : Admits (Tracks program) where
  turn := turn_tracks
  changes := tracks_changes
  call := call_tracks
  ends other := lift_tracks fun session => session.leads_teardown other
  leaves builder guard failed :=
    lift_tracks (Action.record_leads builder (Record.leave_vacates guard failed))
  defines other name types _ follows := define_tracks other name types follows

end HostT

theorem Course.tracks (program : Nat) (course : Course) :
    course.perform.Follows (HostT.Tracks program) :=
  (HostT.tracks_admits program).course course

namespace Session

/-- Everything that is asked of a program, of its kernels and of its fields is
refused, and changes nothing. -/
structure Refuses (session : Session) (program : Nat) : Prop where
  storage : (session.program program).storage? = none
  teardown : (Action.teardown program).run.run session = (.ok (), session)
  enter : (Action.enter program).run.run session = (.error (.program .tornDown), session)
  root : (Action.root program).run.run session = (.error (.program .tornDown), session)
  define {τ : Type} (own : τ) (name : String) (types : List HostValue)
    (callback : List Expr → HostT (StateM τ) Unit) :
    HostT.outcome (HostT.define program name types callback) (session, own) =
      (.error (.program .tornDown), session, own)
  activated {τ α : Type} (own : τ) (inside : HostT (StateM τ) α) :
    HostT.outcome (HostT.activated program inside) (session, own) =
      (.error (.program .tornDown), session, own)
  during {τ : Type} (own : τ) (inside : HostT (StateM τ) Unit) :
    HostT.outcome (HostT.during program inside) (session, own) =
      (.error (.program .tornDown), session, own)
  layout {τ : Type} (own : τ) (callback : HostValue → HostT (StateM τ) Unit) :
    HostT.outcome (HostT.layout program callback) (session, own) =
      (.error (.program .tornDown), session, own)
  compile {kernel : Nat} (owner : (session.kernel kernel).program = program) :
    (Action.compile kernel).run.run session = (.error (.program .tornDown), session)
  call {kernel : Nat} (owner : (session.kernel kernel).program = program)
    (args : List HostValue) :
    (Action.call kernel args).run.run session = (.error (.program .tornDown), session)
  contents : (Action.storageOf program).run.run session = (.error (.program .tornDown), session)
  active (target : HostValue) (index : List HostValue) :
    (Action.storageOf program >>= fun storage => Action.activeAt storage target index).run.run
      session = (.error (.program .tornDown), session)
  read {field : Field} {leaf : Node} {target : HostValue} (named : target.field? = some field)
    (placed : session.layouts.leafOf? field = some ((session.program program).tree, leaf))
    (index : List HostValue) :
    (Action.readField target index).run.run session = (.error (.program .detachedTree), session)
  write {field : Field} {leaf : Node} {target : HostValue} (named : target.field? = some field)
    (placed : session.layouts.leafOf? field = some ((session.program program).tree, leaf))
    (index : List HostValue) (value : HostValue) :
    (Action.writeField target index value).run.run session =
      (.error (.program .detachedTree), session)

section Asked

variable {session : Session} {program : Nat}

theorem refused_of_dead {α : Type} (dead : (session.program program).alive = false)
    (next : Unit → Action α) : (Action.checkAlive program >>= next).run.run session =
      (.error (.program .tornDown), session) := by
  rw [run_run_bind, HostT.run_checkAlive, dead]
  rfl

theorem compile_of_dead {kernel : Nat} (owner : (session.kernel kernel).program = program)
    (dead : (session.program program).alive = false) :
    (Action.compile kernel).run.run session = (.error (.program .tornDown), session) := by
  rw [Action.compile, run_run_get_bind]
  subst owner
  exact refused_of_dead dead _

/-- The layout of a program that has ended belongs to no program, which is found
out before anything else. -/
theorem accessed_of_detached {field : Field} {leaf : Node} {id : Nat} (index : List HostValue)
    (free : (session.tree id).program? = none)
    (placed : session.layouts.leafOf? field = some (id, leaf)) :
    (Action.accessed field index).run.run session = (.error (.program .detachedTree), session) := by
  have unowned : (Action.programOf ⟨id, leaf.id⟩).run.run session =
      (.error (.program .detachedTree), session) := by
    rw [Action.programOf, run_run_get_bind, free]
    rfl
  rw [Action.accessed, run_run_get_bind, placed]
  dsimp only
  rw [run_run_bind, unowned]

theorem run_field {target : HostValue} {field : Field} (name : String)
    (named : target.field? = some field) :
    (liftM (Ask.field target name) : Action Field).run.run session = (.ok field, session) := by
  rw [Ask.field, named]
  rfl

end Asked

/-- What is asked of a program that has ended is refused because the program says
so, or because its layout belongs to no program. -/
theorem Tidy.refuses {session : Session} {program : Nat} (tidy : session.Tidy program)
    (gone : session.Gone program) : session.Refuses program := by
  obtain ⟨unstored, free⟩ := tidy.emptied gone
  have dead := gone.2
  have stored : (Action.storageOf program).run.run session =
      (.error (.program .tornDown), session) := refused_of_dead dead _
  constructor
  case storage => exact unstored
  case teardown => exact HostT.run_teardown_of_dead dead
  case enter => exact refused_of_dead dead _
  case root => exact refused_of_dead dead _
  case define => exact fun own name types callback =>
    HostT.outcome_define_of_dead name types callback dead
  case activated => exact fun own inside => HostT.outcome_activated_of_dead inside dead
  case during => exact fun own inside => HostT.outcome_during_of_dead inside dead
  case layout =>
      intro τ own callback
      have rooted : (Action.root program).run.run session =
          (.error (.program .tornDown), session) := refused_of_dead dead _
      rw [HostT.layout, HostT.outcome_bind, HostT.outcome_lift, rooted]
  case compile => exact fun owner => compile_of_dead owner dead
  case call =>
      intro kernel owner args
      rw [Action.call, run_run_bind, compile_of_dead owner dead]
  case contents => exact stored
  case active =>
      intro target index
      rw [run_run_bind, stored]
  case read =>
      intro field leaf target named placed index
      rw [Action.readField, run_run_bind, run_field _ named]
      dsimp only
      rw [run_run_bind, accessed_of_detached index free placed]
  case write =>
      intro field leaf target named placed index value
      rw [Action.writeField, run_run_bind, run_field _ named]
      dsimp only
      rw [run_run_bind, accessed_of_detached index free placed]

end Session

/-- There are no programs at the start. -/
theorem Session.tidy_start (program : Nat) : Session.start.Tidy program where
  made known := absurd known (Nat.not_lt_zero _)
  apart known := absurd known (Nat.not_lt_zero _)
  laid known := absurd known (Nat.not_lt_zero _)
  emptied gone := absurd gone.1 (Nat.not_lt_zero _)

theorem Session.idle_start (program : Nat) : Session.start.Idle program :=
  fun gone => absurd gone.1 (Nat.not_lt_zero _)

/-- Whatever host code does from the start of a session: a program that has ended
at one of its turns has ended at all later ones and at the end, and everything
that is asked of it there is refused, a second end apart, which changes nothing.
It has no kernels either, unless host code opens a scope with its builder after
its end. -/
theorem Course.teardown_final (course : Course) (program : Nat) :
    let ended := HostT.outcome course.perform (.start, [])
    let sessions := ended.2.2.map Turn.session ++ [ended.2.1]
    (sessions.Pairwise fun earlier later => earlier.Gone program → later.Gone program) ∧
      ∀ session ∈ sessions,
        (program < session.programs.size →
          ((Action.teardown program).run.run session).2.Gone program) ∧
        (session.Gone program → session.Refuses program ∧
          (Quiet program ended.2.2 → (session.program program).kernels = [])) := by
  obtain ⟨turns, written, leads⟩ := course.tracks program (.start, [])
  dsimp only at leads ⊢
  rw [List.nil_append] at written
  subst written
  obtain ⟨fromStart, among⟩ := List.pairwise_cons.mp leads
  refine ⟨among.imp fun leads => leads.gone, fun session member => ?_⟩
  refine ⟨session.gone_teardown, fun gone => ?_⟩
  have reaches := fromStart session member
  have tidy := reaches.tidy (Session.tidy_start program)
  refine ⟨tidy.refuses gone, fun quiet => ?_⟩
  exact (reaches.idle quiet (Session.tidy_start program) (Session.idle_start program) gone).1

namespace Halted

/-- A program is ended in the callback of a definition, which goes on with an
operation. -/
def course (operation : Operation) : Course :=
  .call (.newProgram none) fun _ =>
    .define 0 "k" []
      (fun _ => .call (.teardown 0) fun _ => .call (.record 0 operation) fun _ => .finish)
      fun _ => .finish

/-- What the course comes to. -/
def ended (operation : Operation) : Except Error Unit × Session × List Turn :=
  HostT.outcome (course operation).perform (.start, [])

/-- The callback opens a scope with the builder of the program that has ended. -/
theorem kernel_registered_after_end :
    (ended (.createScope (.block 0))).2.1.Gone 0 ∧
      ((ended (.createScope (.block 0))).2.1.program 0).kernels = [("k", 0)] := by
  constructor <;> decide +kernel

/-- The callback declares a variable instead, which fails, and the definition is
given up. -/
theorem definition_refused_after_end :
    (ended (.alloca none)).2.1.Gone 0 ∧ (ended (.alloca none)).2.1.Refuses 0 ∧
      ((ended (.alloca none)).2.1.program 0).kernels = [] := by
  have gone : (ended (.alloca none)).2.1.Gone 0 := by decide +kernel
  have quiet : Quiet 0 (ended (.alloca none)).2.2 := by decide +kernel
  obtain ⟨_, final⟩ := (course (.alloca none)).teardown_final 0
  obtain ⟨_, refuses⟩ := final (ended (.alloca none)).2.1
    (List.mem_append_right _ (List.mem_singleton_self _))
  obtain ⟨refused, unnamed⟩ := refuses gone
  exact ⟨gone, refused, unnamed quiet⟩

end Halted

end FieldKernel
