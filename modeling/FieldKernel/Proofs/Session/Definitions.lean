import FieldKernel.Proofs.Session.Builders

/-!
# Definitions leave nothing half done

A definition registers its kernel or fails, and either way it leaves no scope
behind, unless the callback exits.  The callback records what it likes, defines
kernels itself, ends other programs and catches errors; as long as it neither
closes the scope of the kernel by hand nor ends its program, that scope stays at
the bottom.
-/

namespace FieldKernel

/-- The scope of a definition stays at the bottom. -/
theorem Stage.Step.bottom {byHand : Prop} {one other : Stage} {guard : Guard}
    (step : Stage.Step byHand one other) (floor : one.floor = 1)
    (bottom : one.stack.getLast? = some guard) :
    other.floor = 1 ∧ other.stack.getLast? = some guard := by
  cases step with
  | entersBranch => exact ⟨floor, by simpa using bottom⟩
  | entersBody => exact ⟨floor, by simpa using bottom⟩
  | opens allowed opened =>
      refine ⟨floor, ?_⟩
      dsimp only at bottom ⊢
      rw [List.getLast?_cons, bottom]
      rfl
  | @pops recording closing rest lowest above =>
      obtain rfl : lowest = 1 := floor
      obtain ⟨second, more, rfl⟩ : ∃ second more, rest = second :: more :=
        List.exists_cons_of_length_pos (by omega)
      exact ⟨rfl, by simpa using bottom⟩
  | _ => exact ⟨floor, bottom⟩

theorem Stage.Steps.bottom {byHand : Prop} {one other : Stage} {guard : Guard}
    (steps : Stage.Steps byHand one other) (floor : one.floor = 1)
    (bottom : one.stack.getLast? = some guard) :
    other.floor = 1 ∧ other.stack.getLast? = some guard := by
  induction steps with
  | refl => exact ⟨floor, bottom⟩
  | tail _ step hypothesis => exact step.bottom hypothesis.1 hypothesis.2

/-- The scope of a definition is not closed by hand, nor are all scopes
dropped. -/
def Operation.Spares : Operation → Prop
  | exitRoot => False
  | reset => False
  | _ => True

theorem Operation.permitted_of_spares (operation : Operation) (spares : operation.Spares)
    {recorder : Recorder} (inside : recorder.builder.stack ≠ []) :
    operation.Permitted True recorder := by
  cases operation with
  | enterRoot => exact inside
  | insert statement =>
      cases statement with
      | statement => exact .inl trivial
      | _ => trivial
  | exitRoot => exact spares.elim
  | reset => exact spares.elim
  | _ => trivial

/-- Host code leaves the scope of a definition alone, and does not end its
program. -/
def Script.Spares (program builder : Nat) : Script → Prop
  | finish => True
  | raise _ => True
  | record target operation next =>
    (target = builder → operation.Spares) ∧ ∀ outcome, (next outcome).Spares program builder
  | define _ _ _ body next =>
    (∀ arguments, (body arguments).Spares program builder) ∧
      ∀ outcome, (next outcome).Spares program builder
  | activated _ body next =>
    body.Spares program builder ∧ ∀ outcome, (next outcome).Spares program builder
  | during other body next =>
    other ≠ program ∧ body.Spares program builder ∧
      ∀ outcome, (next outcome).Spares program builder
  | teardown other next => other ≠ program ∧ next.Spares program builder

namespace Session

/-- A program has a builder of its own. -/
structure Owns (session : Session) (program builder : Nat) : Prop where
  owns : (session.program program).builder = builder
  made : builder < session.builders.size
  apart {other : Nat} (different : other ≠ program) (known : other < session.programs.size) :
    (session.program other).builder ≠ builder

/-- A kernel of a program is being defined. -/
structure Defining (session : Session) (program builder : Nat) (bottom : Guard) : Prop
    extends Owns session program builder where
  floor : (session.builder builder).floor = 1
  bottom : (session.builder builder).stack.getLast? = some bottom

/-- What is there of a program, and of the kernels, while a kernel of the
program is being defined. -/
structure Holds (before after : Session) (program : Nat) : Prop where
  size : after.programs.size = before.programs.size
  builders : after.builders.size = before.builders.size
  owner (other : Nat) : (after.program other).builder = (before.program other).builder
  alive : (after.program program).alive = (before.program program).alive
  registry : (after.program program).kernels = (before.program program).kernels
  kernels : before.kernels.size ≤ after.kernels.size
  made {kernel : Nat} (known : kernel < before.kernels.size) :
    (after.kernel kernel).program = (before.kernel kernel).program ∧
      (after.kernel kernel).name = (before.kernel kernel).name

theorem Holds.refl (session : Session) (program : Nat) : session.Holds session program :=
  ⟨rfl, rfl, fun _ => rfl, rfl, rfl, le_rfl, fun _ => ⟨rfl, rfl⟩⟩

theorem Holds.trans {before middle after : Session} {program : Nat}
    (first : before.Holds middle program) (second : middle.Holds after program) :
    before.Holds after program where
  size := second.size.trans first.size
  builders := second.builders.trans first.builders
  owner other := (second.owner other).trans (first.owner other)
  alive := second.alive.trans first.alive
  registry := second.registry.trans first.registry
  kernels := first.kernels.trans second.kernels
  made known :=
    have later := second.made (known.trans_le first.kernels)
    have earlier := first.made known
    ⟨later.1.trans earlier.1, later.2.trans earlier.2⟩

/-- No program has begun again, and the entries of the programs that have not
ended are current as before, in their order. -/
structure StillCurrent (before after : Session) : Prop where
  ends {other : Nat} (alive : (after.program other).alive) : (before.program other).alive
  entries {lasting : Nat → Bool}
    (lasts : ∀ other, lasting other → (before.program other).alive → (after.program other).alive) :
    after.entered.filter lasting = before.entered.filter lasting

namespace StillCurrent

theorem of_eq {before after : Session}
    (alive : ∀ other, (after.program other).alive = (before.program other).alive)
    (entered : after.entered = before.entered) : before.StillCurrent after :=
  ⟨fun {other} lives => alive other ▸ lives, fun _ => by rw [entered]⟩

theorem refl (session : Session) : session.StillCurrent session :=
  of_eq (fun _ => rfl) rfl

theorem trans {before middle after : Session} (first : before.StillCurrent middle)
    (second : middle.StillCurrent after) : before.StillCurrent after where
  ends alive := first.ends (second.ends alive)
  entries lasts :=
    (second.entries fun other lasting alive => lasts other lasting (first.ends alive)).trans
      (first.entries fun other lasting alive => second.ends (lasts other lasting alive))

/-- The entry that was made for a program is taken away again. -/
theorem leaving {before after : Session} {program : Nat}
    (still : (before.entering program).StillCurrent after) :
    before.StillCurrent (after.leaving program) where
  ends alive := still.ends alive
  entries {lasting} lasts := by
    have inside := still.entries lasts
    change (after.entered.erase program).filter lasting = _
    rw [← List.erase_filter, inside]
    change ((program :: before.entered).filter lasting).erase program = _
    by_cases kept : lasting program
    · rw [List.filter_cons_of_pos kept, List.erase_cons_head]
    · rw [List.filter_cons_of_neg kept, List.erase_of_not_mem]
      exact fun member => kept (List.mem_filter.mp member).2

/-- The entry that was made for a program does not count if the program has
ended. -/
theorem of_ended {before after : Session} {program : Nat}
    (still : (before.entering program).StillCurrent after)
    (alive : (before.program program).alive) (dead : (after.program program).alive = false) :
    before.StillCurrent after where
  ends alive := still.ends alive
  entries {lasting} lasts := by
    rw [still.entries lasts]
    refine List.filter_cons_of_neg fun kept => ?_
    have lives := lasts program kept alive
    rw [dead] at lives
    cases lives

end StillCurrent

theorem Owns.of_holds {before after : Session} {program builder : Nat}
    (owned : before.Owns program builder) (holds : before.Holds after program) :
    after.Owns program builder where
  owns := (holds.owner program).trans owned.owns
  made := holds.builders ▸ owned.made
  apart {other} different known := by
    rw [holds.owner]
    exact owned.apart different (holds.size ▸ known)

/-- Programs, builders and kernels are the same. -/
structure Same (before after : Session) : Prop where
  programs : after.programs = before.programs
  builders : after.builders = before.builders
  kernels : after.kernels = before.kernels

theorem Same.program {before after : Session} (same : before.Same after) (program : Nat) :
    after.program program = before.program program := by
  rw [Session.program, same.programs, Session.program]

theorem Same.builder {before after : Session} (same : before.Same after) (builder : Nat) :
    after.builder builder = before.builder builder := by
  rw [Session.builder, same.builders, Session.builder]

theorem Same.holds {before after : Session} (same : before.Same after) (program : Nat) :
    before.Holds after program where
  size := by rw [same.programs]
  builders := by rw [same.builders]
  owner other := by rw [same.program]
  alive := by rw [same.program]
  registry := by rw [same.program]
  kernels := by rw [same.kernels]
  made {kernel} _ := by
    rw [Objects.kernel, same.kernels, Objects.kernel]
    exact ⟨rfl, rfl⟩

theorem Defining.of_holds {before after : Session} {program builder : Nat} {bottom : Guard}
    (defining : before.Defining program builder bottom) (holds : before.Holds after program)
    (same : after.builder builder = before.builder builder) :
    after.Defining program builder bottom where
  toOwns := defining.toOwns.of_holds holds
  floor := same ▸ defining.floor
  bottom := same ▸ defining.bottom

theorem Same.defining {before after : Session} (same : before.Same after) {program builder : Nat}
    {bottom : Guard} (defining : before.Defining program builder bottom) :
    after.Defining program builder bottom :=
  defining.of_holds (same.holds program) (same.builder builder)

theorem same_entering (session : Session) (program : Nat) :
    session.Same (session.entering program) :=
  ⟨rfl, rfl, rfl⟩

theorem same_leaving (session : Session) (program : Nat) :
    session.Same (session.leaving program) :=
  ⟨rfl, rfl, rfl⟩

/-- A definition is prepared: the kernel is new, and its number is taken. -/
theorem holds_preparing (session : Session) (program : Nat) (name : String)
    (argTypes : List DataType) (other : Nat) :
    session.Holds (session.preparing program name argTypes) other := by
  have program (id : Nat) := session.program_preparing program name argTypes id
  constructor
  case size => simp [preparing]
  case builders => rfl
  case owner =>
      intro id
      obtain ⟨number, same⟩ := program id
      rw [same]
  case alive =>
      obtain ⟨number, same⟩ := program other
      rw [same]
  case registry =>
      obtain ⟨number, same⟩ := program other
      rw [same]
  case kernels => simp [preparing]
  case made =>
      intro kernel known
      simp [preparing, Objects.kernel, Array.getElem?_push, known.ne, known]

theorem stillCurrent_preparing (session : Session) (program : Nat) (name : String)
    (argTypes : List DataType) : session.StillCurrent (session.preparing program name argTypes) :=
  .of_eq (fun other => by
    obtain ⟨number, same⟩ := session.program_preparing program name argTypes other
    rw [same]) rfl

theorem kernel_preparing (session : Session) (program : Nat) (name : String)
    (argTypes : List DataType) :
    (session.preparing program name argTypes).kernel session.kernels.size =
      ⟨program, name, argTypes, (session.program program).nextKernel,
        session.recording.blocks.size, .defining, 0, none, []⟩ := by
  simp [preparing, Objects.kernel]

/-- How far a kernel has come does not matter to what it is. -/
theorem kernel_stated {before after : Session} {kernel : Nat} {state : KernelState}
    (kernels : after.kernels =
      before.kernels.modify kernel fun entry => { entry with state := state }) (id : Nat) :
    (after.kernel id).program = (before.kernel id).program ∧
      (after.kernel id).name = (before.kernel id).name := by
  rw [Objects.kernel, kernels, Array.getElem?_modify, Objects.kernel]
  split
  · cases before.kernels[id]? <;> exact ⟨rfl, rfl⟩
  · exact ⟨rfl, rfl⟩

/-- The builder of another program is reset. -/
theorem holds_abandon (session : Session) (kernel : Nat) (error : Error) (program : Nat) :
    session.Holds ((Action.abandon kernel error).run.run session).2 program := by
  obtain ⟨final, run, _, builders, _, kernels, programs⟩ :=
    HostT.run_abandon session kernel error
  rw [run]
  have same (other : Nat) : final.program other = session.program other := by
    rw [Session.program, programs, Session.program]
  constructor
  case size => rw [programs]
  case builders => simp [builders]
  case owner => exact fun other => by rw [same]
  case alive => rw [same]
  case registry => rw [same]
  case kernels => simp [kernels]
  case made => exact fun {id} _ => kernel_stated kernels id

theorem stillCurrent_abandon (session : Session) (kernel : Nat) (error : Error) :
    session.StillCurrent ((Action.abandon kernel error).run.run session).2 := by
  obtain ⟨final, run, _, _, entered, _, programs⟩ := HostT.run_abandon session kernel error
  rw [run]
  exact .of_eq (fun other => by rw [Session.program, programs, Session.program]) entered

/-- A program keeps its builder and lives on when a kernel is registered. -/
theorem program_registered {session final : Session} {kernel : Nat}
    {change : Program → List (String × Nat)}
    (programs : final.programs = session.programs.modify (session.kernel kernel).program
      fun entry => { entry with kernels := change entry }) (other : Nat) :
    (final.program other).builder = (session.program other).builder ∧
      (final.program other).alive = (session.program other).alive := by
  rw [Session.program, programs, Array.getElem?_modify, Session.program]
  split
  · cases session.programs[other]? <;> exact ⟨rfl, rfl⟩
  · exact ⟨rfl, rfl⟩

/-- What happens in between leaves the definition of a kernel going on. -/
structure Continues (before after : Session) (program builder : Nat) (bottom : Guard) : Prop
    extends Holds before after program, StillCurrent before after where
  defining : after.Defining program builder bottom

theorem Continues.trans {before middle after : Session} {program builder : Nat} {bottom : Guard}
    (earlier : before.Continues middle program builder bottom)
    (later : middle.Continues after program builder bottom) :
    before.Continues after program builder bottom :=
  ⟨earlier.toHolds.trans later.toHolds, earlier.toStillCurrent.trans later.toStillCurrent,
    later.defining⟩

section Having

variable {session : Session} {builder : Nat}

theorem builder_having_self (made : builder < session.builders.size) (recorder : Recorder) :
    (session.having builder recorder).builder builder = recorder.builder := by
  simp [having, Session.builder, Array.getElem_modify, made]

theorem builder_having_of_ne {other : Nat} (different : other ≠ builder) (recorder : Recorder) :
    (session.having builder recorder).builder other = session.builder other := by
  simp [having, Session.builder, Array.getElem?_modify, different.symm]

/-- A recorder that has done nothing leaves the session as it was. -/
theorem having_recording (other : Nat) (recording : Recording) :
    session.having other
        { session.recorder (session.builder other) with recording := recording } =
      { session with recording := recording } := by
  have same :
      session.builders.modify other (fun _ => session.builder other) = session.builders := by
    refine Array.ext_getElem? fun id => ?_
    rw [Array.getElem?_modify]
    split
    · next here =>
      subst here
      rw [Session.builder]
      cases session.builders[other]? <;> rfl
    · rfl
  rw [having]
  simp only [Session.after, Session.recorder, same]

theorem having_self (other : Nat) :
    session.having other (session.recorder (session.builder other)) = session :=
  having_recording other session.recording

theorem Defining.continues_abandoned {program : Nat} {bottom : Guard}
    (defining : session.Defining program builder bottom) (kernel : Nat) (error : Error)
    (different : (session.kernel kernel).program ≠ program)
    (known : (session.kernel kernel).program < session.programs.size) :
    session.Continues (HostT.abandoned kernel error session) program builder bottom := by
  rw [HostT.abandoned]
  split
  · exact ⟨.refl session program, .refl session, defining⟩
  have holds := session.holds_abandon kernel error program
  have still := session.stillCurrent_abandon kernel error
  obtain ⟨final, run, _, builders, _⟩ := HostT.run_abandon session kernel error
  rw [run] at holds still ⊢
  refine ⟨holds, still, defining.of_holds holds ?_⟩
  have apart := defining.apart different known
  rw [Session.builder, builders, Array.getElem?_modify, if_neg apart, Session.builder]

theorem Defining.continues_register {program : Nat} {bottom : Guard}
    (defining : session.Defining program builder bottom) (kernel : Nat)
    (different : (session.kernel kernel).program ≠ program) :
    session.Continues ((Action.register kernel).run.run session).2 program builder bottom := by
  obtain ⟨final, run, _, builders, entered, kernels, programs⟩ :=
    HostT.run_register session kernel
  rw [run]
  have others := program_registered programs
  have holds : session.Holds final program := by
    constructor
    case size => simp [programs]
    case builders => rw [builders]
    case owner => exact fun other => (others other).1
    case alive => exact (others program).2
    case registry =>
        rw [Session.program, programs, Array.getElem?_modify, if_neg different, Session.program]
    case kernels => simp [kernels]
    case made => exact fun {id} _ => kernel_stated kernels id
  refine ⟨holds, .of_eq (fun other => (others other).2) entered, defining.of_holds holds ?_⟩
  rw [Session.builder, builders, Session.builder]

theorem holds_having (builder : Nat) (recorder : Recorder) (program : Nat) :
    session.Holds (session.having builder recorder) program :=
  ⟨rfl, by simp [having], fun _ => rfl, rfl, rfl, le_rfl, fun _ => ⟨rfl, rfl⟩⟩

theorem stillCurrent_having (builder : Nat) (recorder : Recorder) :
    session.StillCurrent (session.having builder recorder) :=
  .of_eq (fun _ => rfl) rfl

/-- The end of another program leaves a definition going on. -/
theorem Defining.continues_teardown {program : Nat} {bottom : Guard}
    (defining : session.Defining program builder bottom) {other : Nat}
    (different : other ≠ program) :
    session.Continues ((Action.teardown other).run.run session).2 program builder bottom ∧
      (((Action.teardown other).run.run session).2.program other).alive = false := by
  by_cases alive : (session.program other).alive
  swap
  · have dead : (session.program other).alive = false := by simpa using alive
    rw [HostT.run_teardown_of_dead dead]
    exact ⟨⟨.refl session program, .refl session, defining⟩, dead⟩
  obtain ⟨final, run, entered, programs, builders, kernels⟩ := HostT.run_teardown alive
  rw [run]
  have changed := session.program_of_modified programs alive
  have dead : (final.program other).alive = false := by
    rw [changed, if_pos rfl]
  have others {id : Nat} (apart : id ≠ other) : final.program id = session.program id := by
    rw [changed, if_neg apart]
  have holds : session.Holds final program := by
    constructor
    case size => simp [programs]
    case builders => simp [builders]
    case owner => exact HostT.owner_modified programs fun _ => rfl
    case alive => rw [others different.symm]
    case registry => rw [others different.symm]
    case kernels => rw [kernels]
    case made =>
        intro kernel _
        rw [Objects.kernel, kernels, Objects.kernel]
        exact ⟨rfl, rfl⟩
  refine ⟨⟨holds, ⟨fun {id} lives => ?_, fun {lasting} lasts => ?_⟩,
    defining.of_holds holds ?_⟩, dead⟩
  · by_cases same : id = other
    · exact same ▸ alive
    · exact others same ▸ lives
  · have ended : ¬lasting other := fun kept => by
      have lives := lasts other kept alive
      rw [dead] at lives
      cases lives
    rw [entered, ← List.erase_filter, List.erase_of_not_mem]
    exact fun member => ended (List.mem_filter.mp member).2
  · rw [Session.builder, builders, Array.getElem?_modify,
      if_neg (defining.apart different (session.lt_of_alive alive)), Session.builder]

end Having

end Session

namespace HostT

variable {τ α : Type} {program builder : Nat} {bottom : Guard}

/-- While a kernel is being defined, its definition goes on. -/
def GoesOn (program builder : Nat) (bottom : Guard) (start final : Session × τ) : Prop :=
  start.1.Defining program builder bottom → start.1.Continues final.1 program builder bottom

instance : IsPreorder (Session × τ) (GoesOn program builder bottom) where
  refl _ defining := ⟨.refl _ program, .refl _, defining⟩
  trans _ _ _ first second defining :=
    have earlier := first defining
    earlier.trans (second earlier.defining)

/-- What changes neither programs nor builders nor kernels is nothing to a
definition. -/
theorem goesOn_of_same {start final : Session × τ} (same : start.1.Same final.1)
    (entered : final.1.entered = start.1.entered) : GoesOn program builder bottom start final :=
  fun defining => ⟨same.holds program, .of_eq (fun other => by rw [same.program]) entered,
    same.defining defining⟩

theorem mark_goesOn (note : Moment → StateM τ Unit) (ends? : Option Nat) :
    Follows (GoesOn program builder bottom) (mark note ends?) :=
  fun _ => goesOn_of_same ⟨rfl, rfl, rfl⟩ rfl

theorem build_goesOn (attempt : Build α) :
    Follows (GoesOn program builder bottom) (lift (Action.build attempt) : HostT (StateM τ) α) :=
  fun _ => goesOn_of_same ⟨rfl, rfl, rfl⟩ rfl

/-- A builder records, and if it is that of the program, it does not close the
scope of the kernel. -/
theorem record_goesOn {target : Nat} {attempt : Record α}
    (spares : target = builder → ∀ recorder : Recorder, recorder.builder.stack ≠ [] →
      Record.Moves True attempt recorder) :
    Follows (GoesOn program builder bottom)
      (lift (Action.record target attempt) : HostT (StateM τ) α) := by
  rintro ⟨session, own⟩ defining
  rw [outcome_lift, run_record]
  have holds := session.holds_having target
    (attempt.run.run (session.recorder (session.builder target))).2 program
  suffices scopes : _ ∧ _ from
    ⟨holds, session.stillCurrent_having _ _, defining.toOwns.of_holds holds, scopes.1, scopes.2⟩
  by_cases same : target = builder
  · subst same
    rw [Session.builder_having_self defining.made]
    have inside : (session.builder target).stack ≠ [] := by
      intro empty
      have bottom := defining.bottom
      rw [empty] at bottom
      cases bottom
    exact (spares rfl (session.recorder (session.builder target)) inside).bottom
      defining.floor defining.bottom
  · rw [Session.builder_having_of_ne (Ne.symm same)]
    exact ⟨defining.floor, defining.bottom⟩

/-- An activation of any program leaves the programs current that were. -/
theorem activated_goesOn (other : Nat) {inside : HostT (StateM τ) α}
    (follows : Follows (GoesOn program builder bottom) inside) :
    Follows (GoesOn program builder bottom) (activated other inside) := by
  rintro ⟨session, own⟩ defining
  by_cases alive : (session.program other).alive
  · rw [outcome_activated inside alive]
    have inner := follows (session.entering other, own)
      ((session.same_entering other).defining defining)
    revert inner
    rcases outcome inside (session.entering other, own) with ⟨ended, after, own⟩
    intro inner
    exact ⟨(((session.same_entering other).holds program).trans inner.toHolds).trans
      ((after.same_leaving other).holds program), inner.toStillCurrent.leaving,
      (after.same_leaving other).defining inner.defining⟩
  · rw [outcome_activated_of_dead inside (by simpa using alive)]
    exact refl_of (GoesOn program builder bottom) (session, own) defining

theorem teardown_goesOn {other : Nat} (different : other ≠ program) :
    Follows (GoesOn program builder bottom)
      (lift (Action.teardown other) : HostT (StateM τ) Unit) :=
  fun _ defining => (defining.continues_teardown different).1

/-- A block that ends another program at its end leaves current what was, apart
from what has ended. -/
theorem during_goesOn {other : Nat} (different : other ≠ program) {inside : HostT (StateM τ) Unit}
    (follows : Follows (GoesOn program builder bottom) inside) :
    Follows (GoesOn program builder bottom) (during other inside) := by
  rintro ⟨session, own⟩ defining
  by_cases alive : (session.program other).alive
  swap
  · rw [outcome_during_of_dead inside (by simpa using alive)]
    exact refl_of (GoesOn program builder bottom) (session, own) defining
  rw [outcome_during inside alive]
  have inner := follows (session.entering other, own)
    ((session.same_entering other).defining defining)
  revert inner
  rcases outcome inside (session.entering other, own) with ⟨ended, after, own⟩
  intro inner
  obtain ⟨torn, dead⟩ := inner.defining.continues_teardown different
  have whole := inner.trans torn
  exact ⟨((session.same_entering other).holds program).trans whole.toHolds,
    whole.toStillCurrent.of_ended alive dead, whole.defining⟩

/-- What is recorded for a kernel of another program is nothing to a
definition. -/
theorem recorded_goesOn {target : Nat} (different : target ≠ builder) (argTypes : List DataType)
    {callback : List Expr → HostT (StateM τ) Unit}
    (follows : ∀ arguments, Follows (GoesOn program builder bottom) (callback arguments)) :
    Follows (GoesOn program builder bottom) (recorded target argTypes callback) :=
  (build_goesOn _).bind fun arguments => (follows arguments).bind fun _ =>
    (record_goesOn fun same => (different same).elim).bind fun _ => .pure _

/-- A kernel of the same program is refused, and one of another program is
nothing to a definition. -/
theorem recordBody_goesOn {session : Session} (own : τ) {kernel : Nat}
    {callback : List Expr → HostT (StateM τ) Unit}
    (follows : ∀ arguments, Follows (GoesOn program builder bottom) (callback arguments))
    (defining : session.Defining program builder bottom) (made : kernel < session.kernels.size)
    (known : (session.kernel kernel).program < session.programs.size) :
    session.Continues (outcome (recordBody kernel callback) (session, own)).2.1 program builder
        bottom ∧
      ((session.kernel kernel).program = program →
        ∃ error, (outcome (recordBody kernel callback) (session, own)).1 = .error error) := by
  have entered (spares : (session.program (session.kernel kernel).program).builder = builder →
      ∀ recorder : Recorder, recorder.builder.stack ≠ [] →
        Record.Moves True (Record.enterRoot (.block (session.kernel kernel).body)) recorder) :
      session.Continues _ program builder bottom :=
    record_goesOn spares (session, own) defining
  rw [outcome_lift] at entered
  rw [outcome_recordBody kernel callback rfl]
  by_cases same : (session.kernel kernel).program = program
  · have inside : (session.builder builder).stack ≠ [] := by
      intro empty
      have bottom := defining.bottom
      rw [empty] at bottom
      cases bottom
    have target : (session.program (session.kernel kernel).program).builder = builder :=
      same ▸ defining.owns
    have continues := entered fun _ recorder inside => Record.enterRoot_moves inside
    rw [target, run_record, Record.enterRoot_refused inside] at continues ⊢
    exact ⟨continues, fun _ => ⟨_, rfl⟩⟩
  · have different := defining.apart same known
    have continues := entered fun same => (different same).elim
    revert continues
    rcases (Action.record _ _).run.run session with ⟨error | guard, after⟩
    · exact fun continues => ⟨continues, fun equal => (same equal).elim⟩
    intro begun
    have inner := recorded_goesOn different (session.kernel kernel).argTypes follows (after, own)
      begun.defining
    revert inner
    dsimp only
    rcases outcome (recorded _ _ callback) (after, own) with ⟨error | result, final, own⟩
    · intro inner
      have kept : (final.kernel kernel).program = (session.kernel kernel).program :=
        ((begun.toHolds.trans inner.toHolds).made made).1
      have given := inner.defining.continues_abandoned kernel error (kept ▸ same)
        (kept ▸ (begun.toHolds.trans inner.toHolds).size ▸ known)
      exact ⟨(begun.trans inner).trans given, fun equal => (same equal).elim⟩
    · intro inner
      exact ⟨begun.trans inner, fun equal => (same equal).elim⟩

/-- Definitions inside a definition leave it going on. -/
theorem define_goesOn (other : Nat) (name : String) (types : List HostValue)
    {callback : List Expr → HostT (StateM τ) Unit}
    (follows : ∀ arguments, Follows (GoesOn program builder bottom) (callback arguments)) :
    Follows (GoesOn program builder bottom) (define other name types callback) := by
  rintro ⟨session, own⟩ defining
  by_cases alive : (session.program other).alive
  swap
  · rw [outcome_define_of_dead name types callback (by simpa using alive)]
    exact refl_of (GoesOn program builder bottom) (session, own) defining
  rw [outcome_define name types callback alive]
  rcases types.mapM Ask.dataType session.toObjects with error | argTypes
  · exact refl_of (GoesOn program builder bottom) (session, own) defining
  have known : other < session.programs.size := session.lt_of_alive alive
  -- The session in which the body is recorded.
  let begun := (session.preparing other name argTypes).entering other
  have prepared : session.Holds begun program :=
    (session.holds_preparing other name argTypes program).trans
      ((Session.same_entering _ other).holds program)
  have kernel : begun.kernel session.kernels.size =
      ⟨other, name, argTypes, (session.program other).nextKernel, session.recording.blocks.size,
        .defining, 0, none, []⟩ :=
    session.kernel_preparing other name argTypes
  have made : session.kernels.size < begun.kernels.size := by
    simp [begun, Session.entering, Session.preparing]
  have body := recordBody_goesOn own follows
    (defining.of_holds prepared (by exact rfl)) made
    (by rw [kernel, prepared.size]; exact known)
  rw [kernel] at body
  revert body
  dsimp only
  rcases outcome (recordBody session.kernels.size callback) (begun, own) with
    ⟨error | result, after, own⟩
  all_goals
    rintro ⟨inner, refused⟩
    have left : session.Continues (after.leaving other) program builder bottom :=
      ⟨(prepared.trans inner.toHolds).trans ((after.same_leaving other).holds program),
        (session.stillCurrent_preparing other name argTypes).trans inner.toStillCurrent.leaving,
        (after.same_leaving other).defining inner.defining⟩
  · exact left
  · have different : other ≠ program := by
      intro same
      obtain ⟨error, failed⟩ := refused same
      cases failed
    have registered := left.defining.continues_register session.kernels.size (by
      have kept := (inner.toHolds.made made).1
      rw [kernel] at kept
      exact fun same => different (kept.symm.trans same))
    exact left.trans registered

end HostT

/-- A script that leaves the scope of a definition alone leaves the definition
going on. -/
theorem Script.goesOn {τ : Type} {program builder : Nat} {bottom : Guard}
    (note : Moment → StateM τ Unit) (script : Script) (spares : script.Spares program builder) :
    (script.perform note).Follows (HostT.GoesOn program builder bottom) := by
  induction script with
  | finish => exact HostT.mark_goesOn note none
  | raise error => exact (HostT.mark_goesOn note none).bind fun _ => .throw error
  | record target operation next hypothesis =>
      refine (HostT.mark_goesOn note none).bind fun _ => .bind (.observe ?_) fun outcome =>
        hypothesis outcome (spares.2 outcome)
      exact HostT.record_goesOn fun same recorder inside =>
        operation.moves (operation.permitted_of_spares (spares.1 same) inside)
  | define other name types body next hypothesis continues =>
      refine (HostT.mark_goesOn note none).bind fun _ => .bind (.observe ?_) fun outcome =>
        continues outcome (spares.2 outcome)
      exact HostT.define_goesOn other name types fun arguments =>
        hypothesis arguments (spares.1 arguments)
  | activated other body next hypothesis continues =>
      refine (HostT.mark_goesOn note none).bind fun _ => .bind (.observe ?_) fun outcome =>
        continues outcome (spares.2 outcome)
      exact HostT.activated_goesOn other (hypothesis spares.1)
  | during other body next hypothesis continues =>
      obtain ⟨different, within, after⟩ := spares
      refine (HostT.mark_goesOn note none).bind fun _ => .bind (.observe ?_) fun outcome =>
        continues outcome (after outcome)
      refine HostT.during_goesOn different ((hypothesis within).observe.bind fun outcome => ?_)
      exact (HostT.mark_goesOn note (some other)).bind fun _ start =>
        HostT.goesOn_of_same ⟨rfl, rfl, rfl⟩ rfl
  | teardown other next hypothesis =>
      exact (HostT.mark_goesOn note (some other)).bind fun _ =>
        (HostT.teardown_goesOn spares.1).bind fun _ => hypothesis spares.2

namespace Action

end Action

namespace Session

/-- A kernel is defined and kept under its name, and the other names mean what
they meant. -/
structure Registers (before after : Session) (program : Nat) (name : String) (kernel : Nat) :
    Prop where
  state : (after.kernel kernel).state = .defined
  found : (after.program program).kernels.lookup name = some kernel
  others {other : String} (different : other ≠ name) :
    (after.program program).kernels.lookup other = (before.program program).kernels.lookup other

/-- A definition failed inside another one and left that one as it was: its
scopes, its last loop, all that it recorded, and the kernels of the program. -/
structure Untouched (before after : Session) (program builder : Nat) : Prop where
  scopes : after.builder builder = before.builder builder
  recorded : before.recording.Extends after.recording
  kernels : (after.program program).kernels = (before.program program).kernels
  entered : after.entered = before.entered

/-- A builder has neither a scope nor a fixed one. -/
structure Vacant (session : Session) (builder : Nat) : Prop where
  stack : (session.builder builder).stack = []
  floor : (session.builder builder).floor = 0

end Session

namespace HostT

variable {τ : Type} {session : Session} {own : τ} {program builder : Nat}

/-- Something is ended by an exit. -/
def Exits {α : Type} (ended : Except Error α) : Prop :=
  ∃ error, ended = .error error ∧ error.isExit

/-- How a definition ends that began with no scope open: there is a kernel now,
or there is an error and the kernels are those that were; the builder has
neither a scope nor a fixed one, unless an exit has ended the definition; and
of the programs that have not ended in between, those are current that were. -/
structure Settled (before : Session) (program builder : Nat) (name : String)
    (ended : Except Error Nat × Session × τ) : Prop where
  decided : (∃ kernel, ended.1 = .ok kernel ∧ before.Registers ended.2.1 program name kernel) ∨
    ∃ error, ended.1 = .error error ∧
      (ended.2.1.program program).kernels = (before.program program).kernels
  vacant (caught : ¬Exits ended.1) : ended.2.1.Vacant builder
  current : before.StillCurrent ended.2.1

end HostT

namespace Unfinished

/-- Two programs, the second of which is current. -/
def session : Session :=
  let first := ((Action.newProgram none).run.run .start).2
  (((Action.newProgram none).run.run first).2).entering 1

theorem orderly : session.Orderly := by
  have founded : Session.Hosted _ := .program (.program .start none) none
  exact founded.orderly.of_same rfl (fun _ => rfl) rfl fun _ => id

/-- A definition is attempted inside, the other program is ended, and a branch is
entered and not left. -/
def body (_ : List Expr) : Script :=
  .define 0 "inner" [] (fun _ => .finish) fun _ => .teardown 1 <|
    .record 0 (.beginIf (.int 0 1)) fun _ => .record 0 (.enterBranch .onTrue) fun _ => .finish

/-- What the definition of a kernel of the first program comes to. -/
def defining (session : Session) (body : List Expr → Script) : Except Error Nat × Session × Unit :=
  HostT.outcome (HostT.define 0 "outer" [] fun arguments =>
    (body arguments).perform fun _ => pure ()) (session, ())

/-- The session while the block of a kernel is open. -/
def inside : Session :=
  (HostT.outcome ((Script.record 0 (.enterRoot (.block 0)) fun _ => .finish).perform
    fun _ => pure ()) (session, ())).2.1

end Unfinished

end FieldKernel
