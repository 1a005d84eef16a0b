import FieldKernel.Proofs.Recording.Targets
import FieldKernel.Proofs.Session.Along
import FieldKernel.Proofs.Session.Finality

/-!
# Hints in the course of a program

A hint goes to the loop that the builder of a program has recorded last.  The
beginning of a definition forgets that loop, and so does giving a definition up.
The end of a definition that succeeds does not: until the next one begins, hints
still reach the last loop of a kernel that has been defined.
-/

namespace FieldKernel

/-- The target stays, or there is none any more, or it is a loop that has been put
into a block. -/
structure Recorder.Aims (before after : Recorder) : Prop where
  continues : before.recording.Continues after.recording
  target : after.builder.lastLoop? = before.builder.lastLoop? ∨ after.builder.lastLoop? = none ∨
    ∃ loop, after.builder.lastLoop? = some loop ∧ before.recording.Enters after.recording loop

theorem Recorder.Effect.aims {before : Recorder} {operation : Operation}
    {ended : Except Error HostValue × Recorder} (effect : before.Effect operation ended) :
    before.Aims ended.2 := by
  refine ⟨effect.continues, ?_⟩
  cases effect with
  | refused => exact .inl rfl
  | records _ shifts =>
      cases shifts with
      | still still => exact .inl still.target
      | enters loop enters => exact .inr (.inr ⟨loop, enters.target, enters.enters⟩)
  | begins target => exact .inr (.inl target)
  | resets target => exact .inr (.inl target)
  | hints => exact .inl rfl
  | sets => exact .inl rfl
  | inserts => exact .inl rfl

namespace Session

/-- What happens between two sessions to the target of a builder. -/
structure Aims (builder : Nat) (before after : Session) : Prop where
  continues : before.recording.Continues after.recording
  target : (after.builder builder).lastLoop? = (before.builder builder).lastLoop? ∨
    (after.builder builder).lastLoop? = none ∨
    ∃ loop, (after.builder builder).lastLoop? = some loop ∧
      before.recording.Enters after.recording loop

variable {builder : Nat} {before middle after session : Session}

theorem Aims.trans (first : before.Aims builder middle) (second : middle.Aims builder after) :
    before.Aims builder after where
  continues := first.continues.trans second.continues
  target := by
    rcases second.target with same | none | ⟨loop, target, enters⟩
    · rw [same]
      rcases first.target with same | none | ⟨loop, target, enters⟩
      · exact .inl same
      · exact .inr (.inl none)
      · exact .inr (.inr ⟨loop, target, enters.later second.continues⟩)
    · exact .inr (.inl none)
    · exact .inr (.inr ⟨loop, target, enters.earlier first.continues⟩)

theorem aims_of_same (recording : after.recording = before.recording)
    (target : (after.builder builder).lastLoop? = (before.builder builder).lastLoop?) :
    before.Aims builder after :=
  ⟨recording ▸ .refl _, .inl target⟩

theorem Aims.refl (builder : Nat) (session : Session) : session.Aims builder session :=
  aims_of_same rfl rfl

instance (builder : Nat) : IsPreorder Session (Session.Aims builder) where
  refl := .refl builder
  trans _ _ _ := .trans

/-- What is recorded with another builder does not concern the target. -/
theorem aims_having {other : Nat} {recorder : Recorder}
    (aims : (session.recorder (session.builder other)).Aims recorder) :
    session.Aims builder (session.having other recorder) := by
  refine ⟨aims.continues, ?_⟩
  by_cases same : builder = other
  · subst same
    by_cases made : builder < session.builders.size
    · rw [builder_having_self made]
      exact aims.target
    · have unmade :
          (session.having builder recorder).builder builder = session.builder builder := by
        rw [Session.builder, having, Array.getElem?_eq_none (by simpa using made), Session.builder,
          Array.getElem?_eq_none (by simpa using made)]
      exact .inl (by rw [unmade])
  · exact .inl (by rw [builder_having_of_ne same])

/-- A builder that is emptied has no target. -/
theorem aims_emptied {other : Nat} (recording : after.recording = session.recording)
    (builders : after.builders = session.builders.modify other fun _ => .empty) :
    session.Aims builder after := by
  refine ⟨recording ▸ .refl _, ?_⟩
  rw [Session.builder, builders, Array.getElem?_modify]
  split
  · right
    left
    cases session.builders[builder]? <;> rfl
  · exact .inl rfl

/-- A new builder has no target. -/
theorem lastLoop?_of_push (builders : after.builders = session.builders.push .empty) :
    (after.builder builder).lastLoop? = (session.builder builder).lastLoop? := by
  rw [Session.builder, builders, Array.getElem?_push, Session.builder]
  split
  · next new =>
    rw [Array.getElem?_eq_none new.ge]
    rfl
  · rfl

/-- A change leaves the targets of all builders as they are. -/
theorem Change.lastLoop? (change : Change before after) (builder : Nat) :
    (after.builder builder).lastLoop? = (before.builder builder).lastLoop? := by
  cases change with
  | elsewhere same layouts recording guards => rw [same.builder]
  | addsBuilder => exact lastLoop?_of_push rfl
  | _ => rfl

theorem Change.continues (change : Change before after) :
    before.recording.Continues after.recording := by
  cases change with
  | elsewhere same layouts recording guards => exact recording ▸ .refl _
  | makes operation => exact (operation.effect (before.recorder .empty)).continues
  | _ => exact .refl _

theorem continues_of_changed (changed : Action.Changed before after) :
    before.recording.Continues after.recording ∧ ∀ builder,
      (after.builder builder).lastLoop? = (before.builder builder).lastLoop? := by
  induction changed with
  | refl => exact ⟨.refl _, fun _ => rfl⟩
  | tail _ change hypothesis =>
      obtain ⟨continues, target⟩ := hypothesis
      exact ⟨continues.trans change.continues, fun builder =>
        (change.lastLoop? builder).trans (target builder)⟩

theorem aims_of_changed (changed : Action.Changed before after) : before.Aims builder after :=
  ⟨(continues_of_changed changed).1, .inl ((continues_of_changed changed).2 builder)⟩

theorem aims_record (other : Nat) {α : Type} {attempt : Record α}
    (aims : Record.Relates Recorder.Aims attempt) (session : Session) :
    session.Aims builder ((Action.record other attempt).run.run session).2 :=
  aims_having (aims _)

theorem aims_teardown (program : Nat) (session : Session) :
    session.Aims builder ((Action.teardown program).run.run session).2 := by
  by_cases alive : (session.program program).alive
  · rw [session.run_torn alive]
    exact aims_emptied rfl rfl
  · rw [HostT.run_teardown_of_dead (by simpa using alive)]
    exact .refl builder session

theorem aims_abandon (kernel : Nat) (error : Error) (session : Session) :
    session.Aims builder ((Action.abandon kernel error).run.run session).2 := by
  obtain ⟨final, run, recording, builders, _⟩ := HostT.run_abandon session kernel error
  rw [run]
  exact aims_emptied recording builders

theorem aims_register (kernel : Nat) (session : Session) :
    session.Aims builder ((Action.register kernel).run.run session).2 := by
  obtain ⟨final, run, recording, builders, _⟩ := HostT.run_register session kernel
  rw [run]
  refine aims_of_same recording ?_
  rw [Session.builder, builders, Session.builder]

end Session

theorem Operation.aims (operation : Operation) :
    Record.Relates Recorder.Aims operation.perform :=
  fun recorder => (operation.effect recorder).aims

/-- The target is as it was before, or gone, or recorded since, whatever is done. -/
theorem Session.aims_allows (builder : Nat) : Session.Allows (Session.Aims builder) where
  changed := Session.aims_of_changed
  records other operation := Session.aims_record other operation.aims
  founds _ _ := Session.aims_of_same rfl (Session.lastLoop?_of_push rfl)
  ends := Session.aims_teardown
  abandons := Session.aims_abandon
  registers := Session.aims_register

/-- What host code does with one program; the body of a kernel is recorded by all
that host code can do. -/
inductive Program.Event where
  | define (name : String) (types : List HostValue) (body : List Expr → Course)
  | compile (kernel : Nat)
  | call (kernel : Nat) (args : List HostValue)
  | hint (kind : HintKind) (value : HostValue)

/-- A session in the course of a program. -/
structure Juncture where
  session : Session
  /-- What was recorded when the last definition began, unless it was given up; an
  exit leaves it as it is. -/
  since? : Option Recording

/-- A definition gets as far as its callback. -/
def Session.begins (session : Session) (program : Nat) (types : List HostValue) : Bool :=
  (session.program program).alive && (types.mapM Ask.dataType session.toObjects).isOk &&
    (session.builder (session.program program).builder).stack.isEmpty

namespace Juncture

/-- What the definition of a kernel comes to, with the turns on the way. -/
def defined (program : Nat) (juncture : Juncture) (name : String) (types : List HostValue)
    (body : List Expr → Course) : Except Error Nat × Session × List Turn :=
  HostT.outcome (HostT.define program name types fun arguments => (body arguments).perform)
    (juncture.session, [])

/-- Sets a hint with the builder of a program. -/
def hinted (program : Nat) (juncture : Juncture) (kind : HintKind) (value : HostValue) :
    Except Error Nat × Session :=
  (Action.record (juncture.session.program program).builder (Record.hint kind value)).run.run
    juncture.session

/-- A definition with this outcome has been given up. -/
def givenUp (outcome : Except Error Nat) : Bool :=
  match outcome with
  | .ok _ => false
  | .error error => !error.isExit

def after (program : Nat) (juncture : Juncture) : Program.Event → Juncture
  | .define name types body =>
    let (outcome, session, _) := juncture.defined program name types body
    if juncture.session.begins program types then
      ⟨session, if givenUp outcome then none else some juncture.session.recording⟩
    else ⟨session, juncture.since?⟩
  | .compile kernel =>
    { juncture with session := ((Action.compile kernel).run.run juncture.session).2 }
  | .call kernel args =>
    { juncture with session := ((Action.call kernel args).run.run juncture.session).2 }
  | .hint kind value => { juncture with session := (juncture.hinted program kind value).2 }

/-- The turns of host code in the callback of a definition. -/
def inside (program : Nat) (juncture : Juncture) : Program.Event → List Juncture
  | .define name types body =>
    (juncture.defined program name types body).2.2.map fun turn =>
      ⟨turn.session, some juncture.session.recording⟩
  | _ => []

/-- All junctures from one on, between events and inside of them. -/
def course (program : Nat) : Juncture → List Program.Event → List Juncture
  | juncture, [] => [juncture]
  | juncture, event :: rest =>
    juncture ::
      (juncture.inside program event ++ course program (juncture.after program event) rest)

/-- A loop that hints reach has been put into a block since the definition
began. -/
structure Holds (program builder : Nat) (juncture : Juncture) : Prop where
  known : program < juncture.session.programs.size
  owner : (juncture.session.program program).builder = builder
  since {loop : Nat} (target : (juncture.session.builder builder).lastLoop? = some loop) :
    ∃ start, juncture.since? = some start ∧ start.Enters juncture.session.recording loop

variable {program builder : Nat} {juncture : Juncture}

/-- Something happens that neither begins a definition nor records a loop. -/
theorem Holds.goesOn (holds : juncture.Holds program builder) {after : Session} {quiet : Prop}
    (leads : juncture.session.Leads program quiet after)
    (continues : juncture.session.recording.Continues after.recording)
    (target : (after.builder builder).lastLoop? =
      (juncture.session.builder builder).lastLoop?) :
    Holds program builder ⟨after, juncture.since?⟩ where
  known := holds.known.trans_le leads.size
  owner := (leads.owner holds.known).trans holds.owner
  since found := by
    obtain ⟨start, begun, enters⟩ := holds.since (target ▸ found)
    exact ⟨start, begun, enters.later continues⟩

/-- A definition has begun, without a target. -/
structure Opens (program builder : Nat) (session opened : Session) : Prop where
  known : program < opened.programs.size
  owner : (opened.program program).builder = builder
  clear : (opened.builder builder).lastLoop? = none
  continues : session.recording.Continues opened.recording

theorem Opens.holds {session opened after : Session} {quiet : Prop}
    (opens : Opens program builder session opened) (leads : opened.Leads program quiet after)
    (aims : opened.Aims builder after) : Holds program builder ⟨after, some session.recording⟩ where
  known := opens.known.trans_le leads.size
  owner := (leads.owner opens.known).trans opens.owner
  since found := by
    rcases aims.target with same | none | ⟨loop, target, enters⟩
    · rw [found, opens.clear] at same
      cases same
    · rw [found] at none
      cases none
    · obtain rfl : loop = _ := Option.some.inj (target.symm.trans found)
      exact ⟨session.recording, rfl, enters.earlier opens.continues⟩

/-- A builder that is emptied has no target, whether it is there or not. -/
theorem cleared_of_builders {before after : Session} {recorder : Builder}
    (clear : recorder.lastLoop? = none)
    (builders : after.builders = before.builders.modify builder fun _ => recorder) :
    (after.builder builder).lastLoop? = none := by
  rw [Session.builder, builders, Array.getElem?_modify, if_pos rfl]
  cases before.builders[builder]? with
  | none => rfl
  | some _ => exact clear

/-- What is done before the callback of a definition. -/
theorem Holds.begins {name : String} {argTypes : List DataType}
    (holds : juncture.Holds program builder) :
    let begun := (juncture.session.preparing program name argTypes).entering program
    juncture.session.Leads program True begun ∧
      juncture.session.recording.Continues begun.recording ∧
      (begun.program program).builder = builder := by
  intro begun
  have leads : juncture.session.Leads program True begun :=
    (Action.leads_of_keeps (fun _ => Action.nextKernel_changes program name argTypes)
      juncture.session).trans ((Session.same_entering _ program).leads rfl)
  exact ⟨leads, (Recording.still_addBlock none _).unhinted.continues,
    (leads.owner holds.known).trans holds.owner⟩

/-- The scope of a definition is opened, or there are scopes in the way. -/
theorem enterRoot_cases {session : Session} (known : program < session.programs.size)
    (owner : (session.program program).builder = builder) (scope : HostValue) :
    ((session.builder builder).stack ≠ [] ∧
        (Action.record builder (Record.enterRoot scope)).run.run session =
          (.error (.scope .nestedDefinition), session)) ∨
      (session.builder builder).stack = [] ∧ ∃ guard opened,
        (Action.record builder (Record.enterRoot scope)).run.run session = (.ok guard, opened) ∧
          Opens program builder session opened := by
  by_cases alone : (session.builder builder).stack = []
  · right
    obtain ⟨guard, final, run, target, recording⟩ := @Record.enterRoot_begins
      (session.recorder (session.builder builder)) scope alone
    refine ⟨alone, guard, session.having builder final, ?_, known, owner,
      cleared_of_builders target rfl, ?_⟩
    · rw [HostT.run_record, run]
    · change session.recording.Continues final.recording
      rw [recording]
      exact .refl session.recording
  · left
    refine ⟨alone, ?_⟩
    rw [HostT.run_record, Record.enterRoot_refused alone, Session.having_self]

/-- What the callback of a definition comes to, at every turn and at the end. -/
theorem recorded_reaches {opened final : Session} {turns : List Turn}
    {outcome : Except Error Unit} {argTypes : List DataType} {body : List Expr → Course}
    (records : HostT.outcome
      (HostT.recorded builder argTypes fun arguments => (body arguments).perform) (opened, []) =
        (outcome, final, turns)) :
    ∀ after ∈ turns.map Turn.session ++ [final],
      opened.Leads program (Quiet program turns) after ∧ opened.Aims builder after := by
  have tracks := HostT.tracks_changes.recorded
    (HostT.lift_tracks (Action.record_leads builder Record.exitRoot_vacates)) argTypes
    (fun arguments => (body arguments).tracks program) (opened, [])
  have allows := Session.aims_allows builder
  have along := allows.changes.recorded (HostT.lift_along (allows.records builder .exitRoot))
    argTypes (fun arguments => allows.admits.course (body arguments)) (opened, [])
  rw [records] at tracks along
  obtain ⟨_, written, leads⟩ := tracks
  obtain ⟨_, written', aims⟩ := along
  rw [List.nil_append] at written written'
  subst written written'
  exact fun after member => ⟨(List.pairwise_cons.mp leads).1 after member, aims after member⟩

section Ends

variable {session opened final : Session} {quiet : Prop}
  (opens : Opens program builder session opened) (leads : opened.Leads program quiet final)

include opens leads

/-- A kernel that has been defined leaves its last loop to hints. -/
theorem Opens.completed (aims : opened.Aims builder final) (kernel : Nat) :
    Holds program builder
      ⟨((Action.register kernel).run.run (final.leaving program)).2, some session.recording⟩ := by
  have registers : opened.Leads program False
      ((Action.register kernel).run.run (final.leaving program)).2 :=
    ((leads.mono False.elim).trans (HostT.leads_leaving final program)).trans
      (HostT.leads_register False.elim)
  have left : final.Aims builder (final.leaving program) := Session.aims_of_same rfl rfl
  exact opens.holds registers ((aims.trans left).trans (Session.aims_register kernel _))

/-- A definition that an exit has ended leaves its last loop as it is. -/
theorem Opens.exited (aims : opened.Aims builder final) :
    Holds program builder ⟨final.leaving program, some session.recording⟩ :=
  opens.holds (leads.trans ((HostT.leads_leaving final program).mono fun _ => trivial))
    (aims.trans (Session.aims_of_same rfl rfl))

/-- A definition that is given up leaves no target. -/
theorem Opens.givenUp {kernel : Nat} (made : kernel < opened.kernels.size)
    (owned : (opened.kernel kernel).program = program) (error : Error) :
    Holds program builder
      ⟨((Action.abandon kernel error).run.run final).2.leaving program, none⟩ := by
  have abandons : opened.Leads program quiet ((Action.abandon kernel error).run.run final).2 :=
    leads.trans ((HostT.abandon_leads kernel error final).mono fun _ => trivial)
  have builds : (final.program (final.kernel kernel).program).builder = builder := by
    rw [leads.made made, owned, leads.owner opens.known, opens.owner]
  obtain ⟨emptied, run, _, builders, _⟩ := HostT.run_abandon final kernel error
  rw [builds] at builders
  rw [run] at abandons ⊢
  constructor
  case known => exact opens.known.trans_le abandons.size
  case owner => exact (abandons.owner opens.known).trans opens.owner
  case since =>
      intro loop target
      have cleared : (emptied.builder builder).lastLoop? = none := cleared_of_builders rfl builders
      rw [show (emptied.leaving program).builder builder = emptied.builder builder from rfl,
        cleared] at target
      cases target

end Ends

/-- A step: a definition leaves what hints reach to itself, and nothing to them if
it is given up. -/
theorem Holds.defines (holds : juncture.Holds program builder) (name : String)
    (types : List HostValue) (body : List Expr → Course) :
    (juncture.after program (.define name types body)).Holds program builder ∧
      ∀ other ∈ juncture.inside program (.define name types body),
        other.Holds program builder := by
  by_cases alive : (juncture.session.program program).alive
  swap
  · have refused : juncture.defined program name types body =
        (.error (.program .tornDown), juncture.session, []) :=
      HostT.outcome_define_of_dead name types _ (by simpa using alive)
    have idle : juncture.session.begins program types = false := by simp [Session.begins, alive]
    simp only [after, inside, refused, idle]
    exact ⟨holds, by simp⟩
  have ends : juncture.defined program name types body = _ :=
    @HostT.outcome_define (List Turn) juncture.session [] program name types _ alive
  cases typed : types.mapM Ask.dataType juncture.session.toObjects with
  | error error =>
      have idle : juncture.session.begins program types = false := by
        rw [Session.begins, typed, Except.isOk, Except.toBool, Bool.and_false, Bool.false_and]
      rw [typed] at ends
      simp only [after, inside, ends, idle]
      exact ⟨holds, by simp⟩
  | ok argTypes =>
      rw [typed] at ends
      dsimp only at ends
      let begun := (juncture.session.preparing program name argTypes).entering program
      obtain ⟨leads, continues, owner⟩ := @Holds.begins _ _ _ name argTypes holds
      have kernel : begun.kernel juncture.session.kernels.size = _ :=
        juncture.session.kernel_preparing program name argTypes
      rw [HostT.outcome_recordBody juncture.session.kernels.size _
        (show (begun.program (begun.kernel juncture.session.kernels.size).program).builder = builder
          by rw [kernel]; exact owner)] at ends
      have known : program < begun.programs.size := holds.known.trans_le leads.size
      rcases enterRoot_cases known owner
        (.block (begun.kernel juncture.session.kernels.size).body) with
        ⟨crowded, run⟩ | ⟨alone, guard, opened, run, opens⟩
      · rw [run] at ends
        have idle : juncture.session.begins program types = false := by
          have inside : (juncture.session.builder builder).stack.isEmpty = false :=
            List.isEmpty_eq_false_iff.mpr crowded
          rw [Session.begins, holds.owner, inside, Bool.and_false]
        simp only [after, inside, ends, idle]
        have left := leads.trans (HostT.leads_leaving begun program)
        exact ⟨holds.goesOn left continues rfl, by simp⟩
      · rw [run] at ends
        have starts : juncture.session.begins program types := by
          have outside : (juncture.session.builder builder).stack = [] := alone
          rw [Session.begins, holds.owner, outside, alive, typed]
          rfl
        have opens : Opens program builder juncture.session opened :=
          { opens with continues := continues.trans opens.continues }
        dsimp only at ends
        rcases records : HostT.outcome (HostT.recorded builder
          (begun.kernel juncture.session.kernels.size).argTypes
            fun arguments => (body arguments).perform) (opened, []) with ⟨outcome, final, turns⟩
        have reaches := @recorded_reaches program builder _ _ _ _ _ _ records
        have among : ∀ turn ∈ turns, Holds program builder
            ⟨turn.session, some juncture.session.recording⟩ := by
          intro turn member
          obtain ⟨leads, aims⟩ := reaches turn.session
            (List.mem_append_left _ (List.mem_map_of_mem member))
          exact opens.holds leads aims
        obtain ⟨leads, aims⟩ := reaches final (List.mem_append_right _ (List.mem_singleton_self _))
        rw [records] at ends
        cases outcome with
        | ok done =>
            dsimp only at ends
            simp only [after, inside, ends, starts]
            exact ⟨opens.completed leads aims _, by simpa using among⟩
        | error error =>
            dsimp only at ends
            simp only [after, inside, ends, starts]
            cases exits : error.isExit with
            | true =>
                simp only [givenUp, HostT.isExit_passed, HostT.abandoned, exits]
                exact ⟨opens.exited leads aims, by simpa using among⟩
            | false =>
                simp only [givenUp, HostT.isExit_passed, HostT.abandoned, exits]
                have kept : opened.kernels = begun.kernels :=
                  (congrArg (fun ended : Except Error Guard × Session => ended.2.kernels) run).symm
                refine ⟨opens.givenUp leads ?_ ?_ error, by simpa using among⟩
                · rw [kept]
                  simp [begun, Session.entering, Session.preparing]
                · rw [Objects.kernel, kept]
                  exact congrArg Kernel.program kernel

/-- What a hint comes to: it is refused since there is no loop for it, or it is given
to a loop that has been put into a block since the definition began. -/
inductive Answers (juncture : Juncture) (kind : HintKind) (value : HostValue) :
    Except Error Nat × Session → Prop where
  | refused : Answers juncture kind value (.error (.scope (.noLoop kind.name)), juncture.session)
  | rejected {start : Recording} {loop : Nat} {error : Error} (since : juncture.since? = some start)
      (enters : start.Enters juncture.session.recording loop)
      (wrong : Record.hintValue kind value juncture.session.toObjects = .error error) :
      Answers juncture kind value (.error error, juncture.session)
  | accepted {start : Recording} {loop : Nat} {said : HintValue}
      (since : juncture.since? = some start)
      (enters : start.Enters juncture.session.recording loop)
      (right : Record.hintValue kind value juncture.session.toObjects = .ok said) :
      Answers juncture kind value (.ok loop, { juncture.session with
        recording := juncture.session.recording.setHint loop kind said })

theorem Holds.answers (holds : juncture.Holds program builder) (kind : HintKind)
    (value : HostValue) : juncture.Answers kind value (juncture.hinted program kind value) := by
  have run : juncture.hinted program kind value =
      (Action.record builder (Record.hint kind value)).run.run juncture.session := by
    rw [Juncture.hinted, holds.owner]
  rw [run, HostT.run_record]
  rcases Record.hint_cases (juncture.session.recorder (juncture.session.builder builder)) kind value
    with ⟨-, ends⟩ | ⟨loop, target, ⟨error, wrong, ends⟩ | ⟨said, right, ends⟩⟩
  · rw [ends, Session.having_self]
    exact .refused
  · obtain ⟨start, begun, enters⟩ := holds.since target
    rw [ends, Session.having_self]
    exact .rejected begun enters wrong
  · obtain ⟨start, begun, enters⟩ := holds.since target
    rw [ends]
    dsimp only
    rw [Session.having_recording]
    exact .accepted begun enters right

/-- Loops that were in a block before the definition keep their hints. -/
theorem Answers.spares {kind : HintKind} {value : HostValue} {ended : Except Error Nat × Session}
    (answers : juncture.Answers kind value ended) {start : Recording}
    (since : juncture.since? = some start) {loop : Nat}
    (old : (start.statement loop).parent?.isSome) :
    ended.2.recording.schedule? loop = juncture.session.recording.schedule? loop := by
  cases answers with
  | refused => rfl
  | rejected => rfl
  | @accepted begun target _ since' enters =>
      obtain rfl : begun = start := Option.some.inj (since'.symm.trans since)
      refine (Recording.schedule?_setHint target kind _ loop).trans (if_neg ?_)
      rintro rfl
      rw [enters.free] at old
      cases old

theorem Holds.changes (holds : juncture.Holds program builder) {after : Session}
    (changed : Action.Changed juncture.session after) :
    Holds program builder ⟨after, juncture.since?⟩ :=
  holds.goesOn (Session.leads_of_changed changed) (Session.continues_of_changed changed).1
    ((Session.continues_of_changed changed).2 builder)

/-- What one event keeps up. -/
theorem Holds.step (holds : juncture.Holds program builder) (event : Program.Event) :
    (juncture.after program event).Holds program builder ∧
      ∀ other ∈ juncture.inside program event, other.Holds program builder := by
  cases event with
  | define name types body => exact holds.defines name types body
  | compile kernel =>
      exact ⟨holds.changes (Action.keeps_iff.mp (Action.compile_changes kernel) _ .refl),
        by simp [inside]⟩
  | call kernel args =>
      exact ⟨holds.changes (Action.keeps_iff.mp (Action.call_changes kernel args) _ .refl),
        by simp [inside]⟩
  | hint kind value =>
      refine ⟨?_, by simp [inside]⟩
      have answers := holds.answers kind value
      rw [after]
      generalize juncture.hinted program kind value = ended at answers ⊢
      cases answers with
      | refused => exact holds
      | rejected => exact holds
      | @accepted _ loop said =>
          exact holds.goesOn (@Session.Same.leads program True _ _ ⟨rfl, rfl, rfl⟩ rfl)
            (Recording.continues_setHint loop kind said) rfl

/-- What all events keep up, at every juncture. -/
theorem Holds.course (holds : juncture.Holds program builder) (events : List Program.Event) :
    ∀ other ∈ juncture.course program events, other.Holds program builder := by
  induction events generalizing juncture with
  | nil =>
      intro other member
      rw [List.mem_singleton.mp member]
      exact holds
  | cons event rest hypothesis =>
      obtain ⟨after, inside⟩ := holds.step event
      intro other member
      rcases List.mem_cons.mp member with rfl | later
      · exact holds
      · rcases List.mem_append.mp later with among | beyond
        · exact inside other among
        · exact hypothesis after other beyond

/-- A program that has just come up has no target. -/
theorem holds_founded (session : Session) (config? : Option CompileConfig) :
    Holds session.programs.size session.builders.size
      ⟨((Action.newProgram config?).run.run session).2, none⟩ := by
  obtain ⟨entry, founds⟩ : ∃ entry,
      session.Founds entry ((Action.newProgram config?).run.run session).2 :=
    ⟨_, rfl, rfl, rfl, rfl, rfl, rfl, rfl⟩
  constructor
  case known => exact (Nat.lt_succ_self _).trans_eq founds.size.symm
  case owner =>
      dsimp only
      rw [founds.new]
      exact founds.builder
  case since =>
      intro loop target
      dsimp only at target
      rw [Session.builder, founds.builders, Array.getElem?_push, if_pos rfl] at target
      cases target

end Juncture

/-- In every run of definitions, compilations, calls and hints on a program, inside
and outside of callbacks: a hint is refused and changes nothing, or it is given to a
loop that has been put into a block since the last definition began that was not given
up.  Whatever was in a block by then keeps its hints. -/
theorem Program.hints_since (session : Session) (config? : Option CompileConfig)
    (events : List Program.Event) :
    let program := session.programs.size
    let founded : Juncture := ⟨((Action.newProgram config?).run.run session).2, none⟩
    ∀ juncture ∈ founded.course program events, ∀ (kind : HintKind) (value : HostValue),
      juncture.Answers kind value (juncture.hinted program kind value) ∧
        ∀ start, juncture.since? = some start →
          ∀ loop, (start.statement loop).parent?.isSome →
            (juncture.hinted program kind value).2.recording.schedule? loop =
              juncture.session.recording.schedule? loop := by
  intro program founded juncture member kind value
  have holds := (Juncture.holds_founded session config?).course events juncture member
  exact ⟨holds.answers kind value, fun start since loop => (holds.answers kind value).spares since⟩

namespace Belated

/-- A program has just come up. -/
def founded : Juncture :=
  ⟨((Action.newProgram none).run.run .start).2, none⟩

/-- A kernel is defined that is a loop without hints. -/
def looping : Program.Event :=
  .define "k" [] fun _ => .call (.record 0 (.build (.freshVariable none))) fun made =>
    .call (.record 0 (.beginRange (made.toOption.getD .none) (.int 0 0) (.int 0 4))) fun _ =>
      .finish

/-- After that definition, hints are about what has been recorded since. -/
theorem hints_since_looping :
    founded.after 0 looping ∈ founded.course 0 [looping] ∧
      (founded.after 0 looping).since?.isSome ∧
      (founded.after 0 looping).Answers .parallelize (.int 0 8)
        ((founded.after 0 looping).hinted 0 .parallelize (.int 0 8)) := by
  have member : founded.after 0 looping ∈ founded.course 0 [looping] :=
    List.mem_cons_of_mem _ (List.mem_append_right _ (List.mem_singleton_self _))
  refine ⟨member, by decide +kernel, ?_⟩
  exact (Program.hints_since .start none [looping] _ member .parallelize (.int 0 8)).1

/-- The kinds of the hints of a loop. -/
def kinds (session : Session) (loop : Nat) : Option (List HintKind) :=
  (session.recording.schedule? loop).map fun schedule => schedule.hints.map Prod.fst

/-- The loop of a kernel that has been defined is given a hint. -/
theorem hint_after_definition :
    let defined := founded.after 0 looping
    let ended := defined.hinted 0 .parallelize (.int 0 8)
    (defined.session.kernel 0).state = .defined ∧
      (defined.session.recording.block (defined.session.kernel 0).body).statements = [0] ∧
      kinds defined.session 0 = some [] ∧
      ended.1.toOption = some 0 ∧ kinds ended.2 0 = some [.parallelize] := by
  decide +kernel

end Belated

end FieldKernel
