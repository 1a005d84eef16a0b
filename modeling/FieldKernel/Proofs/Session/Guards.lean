import FieldKernel.Proofs.Recording.Guards
import FieldKernel.Proofs.Session.Along
import FieldKernel.Proofs.Session.Endings

/-!
# Scopes that are left

A guard closes its scope when what is done inside ends, if the scope is the
innermost one then.  Scopes can be opened and closed in any way meanwhile, also
below the guard: an entry of a stack is told from all others by its number, and
wherever it comes up again it has the same entries below it.  So the scopes are
those again that there were before, or the guard leaves them alone.
-/

namespace FieldKernel

namespace Session

/-- What is done at once to scopes; all else can be changed in any way. -/
inductive Does (session : Session) : Session → Prop where
  | aside {other : Session} (builders : other.builders = session.builders)
      (next : other.nextGuard = session.nextGuard) : Does session other
  | adds {other : Session} (builders : other.builders = session.builders.push .empty)
      (next : other.nextGuard = session.nextGuard) : Does session other
  | empties (builder : Nat) {other : Session}
      (builders : other.builders = session.builders.modify builder fun _ => .empty)
      (next : other.nextGuard = session.nextGuard) : Does session other
  | makes (operation : Operation) :
      Does session ((Action.recordFree operation.perform).run.run session).2
  | records (builder : Nat) (operation : Operation) :
      Does session ((Action.record builder operation.perform).run.run session).2

/-- Anything that host code can come to from a session. -/
abbrev Runs : Session → Session → Prop :=
  Relation.ReflTransGen Does

variable {before after session : Session}

theorem Change.does (change : Change before after) : before.Does after := by
  cases change with
  | elsewhere same layouts recording guards => exact .aside same.builders guards
  | makes operation => exact .makes operation
  | addsBuilder => exact .adds rfl rfl
  | _ => exact .aside rfl rfl

/-- Whatever host code does comes down to this. -/
theorem runs_allows : Allows Runs where
  changed changed := Relation.ReflTransGen.mono (fun _ _ => Change.does) _ _ changed
  records builder operation _ := .single (.records builder operation)
  founds _ _ := .single (.adds rfl rfl)
  ends program session := by
    by_cases alive : (session.program program).alive
    · rw [session.run_torn alive]
      exact .single (.empties _ rfl rfl)
    · rw [HostT.run_teardown_of_dead (by simpa using alive)]
  abandons _ _ _ := .single (.empties _ rfl rfl)
  registers _ _ := .single (.aside rfl rfl)

/-- The scopes of every builder have numbers that have been given. -/
def Numbered (session : Session) : Prop :=
  ∀ builder, (session.builder builder).Numbered session.nextGuard

/-- A scope has a number that has been given, and stands on the given ones wherever
it is open. -/
structure Stands (builder : Nat) (guard : Guard) (beneath : List Guard) (session : Session) :
    Prop where
  known : guard.id < session.nextGuard
  stands : (session.builder builder).StandsOn guard beneath

theorem numbered_start : start.Numbered :=
  fun _ => Builder.numbered_empty _

/-- One step: a builder is what it was, or has no scopes, or an operation has been
performed with it. -/
theorem Does.cases (does : before.Does after) (builder : Nat) :
    before.nextGuard ≤ after.nextGuard ∧
      (after.builder builder = before.builder builder ∨ after.builder builder = .empty ∨
        ∃ recorder, (before.recorder (before.builder builder)).Scopes recorder ∧
          after.builder builder = recorder.builder ∧ after.nextGuard = recorder.nextGuard) := by
  cases does with
  | aside builders next =>
      refine ⟨next.ge, .inl ?_⟩
      rw [Session.builder, builders, Session.builder]
  | adds builders next =>
      refine ⟨next.ge, ?_⟩
      rw [Session.builder, builders, Array.getElem?_push]
      split
      · exact .inr (.inl rfl)
      · exact .inl rfl
  | empties other builders next =>
      refine ⟨next.ge, ?_⟩
      rw [Session.builder, builders, Array.getElem?_modify]
      split
      · cases found : before.builders[builder]? with
        | none => exact .inr (.inl rfl)
        | some held => exact .inr (.inl rfl)
      · exact .inl rfl
  | makes operation =>
      exact ⟨(operation.scopes (before.recorder .empty)).next_le, .inl rfl⟩
  | records other operation =>
      have scopes := operation.scopes (before.recorder (before.builder other))
      refine ⟨scopes.next_le, ?_⟩
      rw [HostT.run_record]
      by_cases same : builder = other
      · subst same
        by_cases made : builder < before.builders.size
        · exact .inr (.inr ⟨_, scopes, builder_having_self made _, rfl⟩)
        · refine .inl ?_
          rw [Session.builder, having, Array.getElem?_eq_none (by simpa using made),
            Session.builder, Array.getElem?_eq_none (by simpa using made)]
      · exact .inl (builder_having_of_ne same _)

theorem Does.numbered (does : before.Does after) (numbered : before.Numbered) :
    after.Numbered := by
  intro builder
  obtain ⟨more, same | empty | ⟨recorder, scopes, held, next⟩⟩ := does.cases builder
  · rw [same]
    exact (numbered builder).mono more
  · rw [empty]
    exact Builder.numbered_empty _
  · rw [held, next]
    exact scopes.numbered (numbered builder)

theorem Does.stands (does : before.Does after) {builder : Nat} {guard : Guard}
    {beneath : List Guard} (stands : before.Stands builder guard beneath) :
    after.Stands builder guard beneath := by
  obtain ⟨more, same | empty | ⟨recorder, scopes, held, _⟩⟩ := does.cases builder
  · exact ⟨stands.known.trans_le more, same ▸ stands.stands⟩
  · refine ⟨stands.known.trans_le more, ?_⟩
    rw [empty]
    intro above entry rest whole
    exact absurd whole (by simp [Builder.empty])
  · refine ⟨stands.known.trans_le more, ?_⟩
    rw [held]
    exact scopes.standsOn stands.known stands.stands

theorem numbered_of_runs (runs : before.Runs after) (numbered : before.Numbered) :
    after.Numbered := by
  induction runs with
  | refl => exact numbered
  | tail _ does hypothesis => exact does.numbered hypothesis

theorem stands_of_runs (runs : before.Runs after) {builder : Nat} {guard : Guard}
    {beneath : List Guard} (stands : before.Stands builder guard beneath) :
    after.Stands builder guard beneath := by
  induction runs with
  | refl => exact stands
  | tail _ does hypothesis => exact does.stands hypothesis

theorem made_of_open {builder : Nat} (inside : (session.builder builder).stack ≠ []) :
    builder < session.builders.size := by
  by_contra unmade
  apply inside
  rw [Session.builder, Array.getElem?_eq_none (Nat.le_of_not_lt unmade)]
  rfl

/-- A scope that is opened inside of others stands on those. -/
theorem stands_of_opened {opened : Session} (numbered : before.Numbered) {builder : Nat}
    (nested : (before.builder builder).stack ≠ []) {operation : Operation}
    (enters : operation.entersScope) {guard : Guard}
    (opens : (Action.record builder operation.perform).run.run before =
      (.ok (Operation.ofGuard guard), opened)) :
    opened.Stands builder guard (before.builder builder).stack := by
  rw [HostT.run_record] at opens
  obtain ⟨answered, rfl⟩ := Prod.mk.inj opens
  obtain ⟨entry, answer, isOpened⟩ := Operation.opened enters nested (Prod.ext answered rfl)
  obtain rfl : guard = entry := by
    obtain ⟨id, scope⟩ := guard
    cases answer
    rfl
  obtain ⟨known, stands⟩ := isOpened.standsOn (numbered builder)
  refine ⟨known, ?_⟩
  rw [builder_having_self (made_of_open nested)]
  exact stands

/-- What leaving a scope comes to, when something inside of it has ended. -/
inductive Left (builder : Nat) (guard : Guard) (beneath : List Guard)
    (inside : Except Error Unit × Session) : Except Error Unit × Session → Prop where
  /-- The scope was the innermost one and is closed; the scopes are those that there
  were before it was opened. -/
  | closed {left : Except Error Unit × Session}
      (own : (inside.2.builder builder).stack = guard :: beneath)
      (restored : (left.2.builder builder).stack = beneath)
      (apart : ∀ other ≠ builder, left.2.builder other = inside.2.builder other) :
      Left builder guard beneath inside left
  /-- What was done inside has not failed, but the scope is not the innermost one.
  The complaint shows the scope, which is possible for every block. -/
  | refused {text : Except HostFault String} (done : inside.1 = .ok ())
      (shown : ∀ block, guard.scope = .block block → ∃ listed, text = .ok listed) :
      Left builder guard beneath inside
        (.error (.quoting text fun listed => .scope (.notOnTop listed)), inside.2)
  /-- What was done inside has failed, and the scope is not the innermost one. -/
  | failed {error : Error} (fails : inside.1 = .error error) :
      Left builder guard beneath inside (.error error, inside.2)

/-- A guard closes its own scope or leaves everything as it is. -/
theorem Stands.leaves {builder : Nat} {guard : Guard} {beneath : List Guard} {session : Session}
    (stands : session.Stands builder guard beneath) (numbered : session.Numbered)
    (nested : beneath ≠ []) (failed : Bool) :
    let ended := (Action.record builder (Record.leave guard failed)).run.run session
    ((session.builder builder).stack = guard :: beneath ∧
        (ended.2.builder builder).stack = beneath ∧
        ∀ other ≠ builder, ended.2.builder other = session.builder other) ∨
      ∃ text, (∀ block, guard.scope = .block block → ∃ listed, text = .ok listed) ∧ ended =
        (if failed then .ok () else .error (.quoting text fun listed => .scope (.notOnTop listed)),
          session) := by
  dsimp only
  rw [HostT.run_record]
  let recorder := session.recorder (session.builder builder)
  by_cases innermost : Record.Innermost guard recorder
  · left
    obtain ⟨own, restored⟩ :=
      Recorder.closed_of_innermost (numbered builder) stands.stands nested innermost
    refine ⟨own, ?_, fun other different => builder_having_of_ne different _⟩
    have made : builder < session.builders.size :=
      made_of_open (by rw [show (session.builder builder).stack = _ from own]; simp)
    rw [builder_having_self made, Record.leave_innermost innermost]
    exact restored
  · right
    rw [Record.leave_beneath innermost, having_self]
    refine ⟨_, fun block isBlock => ⟨(recorder.recording.block block).text, ?_⟩, rfl⟩
    rw [isBlock]
    rfl

end Session

namespace HostT

/-- What is done inside of a scope is followed by leaving it. -/
theorem outcome_inScope {τ : Type} (builder : Nat) (guard : Guard)
    (inside : HostT (StateM τ) Unit) (start : Session × τ) :
    outcome (inScope builder guard inside) start =
      match outcome inside start with
      | (.ok (), session, own) =>
        match (Action.record builder (Record.leave guard false)).run.run session with
        | (.ok (), left) => (.ok (), left, own)
        | (.error error, left) => (.error error, left, own)
      | (.error fault, session, own) =>
        match (Action.record builder (Record.leave guard true)).run.run session with
        | (.ok (), left) => (.error fault, left, own)
        | (.error error, left) => (.error error, left, own) := by
  rw [inScope, outcome_bind, outcome_observe]
  rcases outcome inside start with ⟨error | result, session, own⟩
  · dsimp only
    rw [outcome_bind, outcome_lift]
    rcases (Action.record builder (Record.leave guard true)).run.run session with
      ⟨error | result, left⟩ <;> rfl
  · dsimp only
    rw [outcome_bind, outcome_lift]
    rcases (Action.record builder (Record.leave guard false)).run.run session with
      ⟨error | result, left⟩ <;> rfl

end HostT

namespace Session

/-- A scope is opened inside of others, and at any time host code does something
inside of it, with whatever else in between.  When that ends, the scope is closed
and the scopes are those that there were before it, or nothing is changed, which is
a fault unless host code has failed. -/
theorem leaves_scope {before opened entered : Session} (reached : start.Runs before)
    {builder : Nat} (nested : (before.builder builder).stack ≠ []) (operation : Operation)
    (enters : operation.entersScope) {guard : Guard}
    (opens : (Action.record builder operation.perform).run.run before =
      (.ok (Operation.ofGuard guard), opened))
    (meanwhile : opened.Runs entered) (body : Course) (written : List Turn) :
    let inside := HostT.outcome body.perform (entered, written)
    let left := HostT.outcome (HostT.inScope builder guard body.perform) (entered, written)
    Left builder guard (before.builder builder).stack (inside.1, inside.2.1)
      (left.1, left.2.1) := by
  have numbered := numbered_of_runs reached numbered_start
  have opening : before.Does opened := by
    have does : before.Does ((Action.record builder operation.perform).run.run before).2 :=
      .records builder operation
    rwa [opens] at does
  have ran : opened.Runs (HostT.outcome body.perform (entered, written)).2.1 :=
    meanwhile.trans (runs_allows.course body (entered, written))
  have stands := stands_of_runs ran (stands_of_opened numbered nested enters opens)
  replace numbered := numbered_of_runs ran (opening.numbered numbered)
  dsimp only
  rw [HostT.outcome_inScope]
  revert stands numbered
  rcases HostT.outcome body.perform (entered, written) with ⟨fault | done, inside, own⟩
  · intro stands numbered
    dsimp only
    rcases stands.leaves numbered nested true with ⟨own, restored, apart⟩ | ⟨_, _, ends⟩
    · revert restored apart
      rcases (Action.record builder (Record.leave guard true)).run.run inside with
        ⟨error | result, left⟩
      · exact fun restored apart => .closed own restored apart
      · exact fun restored apart => .closed own restored apart
    · rw [ends]
      exact .failed rfl
  · intro stands numbered
    dsimp only
    rcases stands.leaves numbered nested false with ⟨own, restored, apart⟩ | ⟨_, shown, ends⟩
    · revert restored apart
      rcases (Action.record builder (Record.leave guard false)).run.run inside with
        ⟨error | result, left⟩
      · exact fun restored apart => .closed own restored apart
      · exact fun restored apart => .closed own restored apart
    · rw [ends]
      exact .refused rfl shown

end Session

namespace Tampered

/-- A builder and a block. -/
def made : Session :=
  ((Call.make (.newBlock "outer")).perform.run.run (Call.newBuilder.perform.run.run .start).2).2

/-- The session in which the builder has one scope. -/
def before : Session :=
  ((Action.record 0 (Operation.createScope (.block 0)).perform).run.run made).2

/-- The scope that is opened in it. -/
def guard : Guard :=
  ⟨1, .block 0⟩

/-- The session with both scopes. -/
def opened : Session :=
  ((Action.record 0 (Operation.createScope (.block 0)).perform).run.run before).2

/-- Both scopes are closed by hand, and new ones are opened for the same block. -/
def replacing : Course :=
  .call (.record 0 .popScope) fun _ => .call (.record 0 .popScope) fun _ =>
    .call (.record 0 (.createScope (.block 0))) fun _ =>
      .call (.record 0 (.createScope (.block 0))) fun _ => .finish

/-- One more scope is opened and closed. -/
def balanced : Course :=
  .call (.record 0 (.createScope (.block 0))) fun _ => .call (.record 0 .popScope) fun _ => .finish

/-- What leaving the scope comes to after something inside of it. -/
def left (body : Course) : Except Error Unit × Session :=
  let ended := HostT.outcome (HostT.inScope 0 guard body.perform) (opened, [])
  (ended.1, ended.2.1)

/-- The numbers of the scopes that are open. -/
def numbers (session : Session) : List Nat :=
  (session.builder 0).stack.map Guard.id

theorem before_reached : Session.start.Runs before := by
  have adds : Session.start.Does (Call.newBuilder.perform.run.run .start).2 := .adds rfl rfl
  have makes : Session.Does _ made := .makes (.newBlock "outer")
  have opens : made.Does before := .records 0 (.createScope (.block 0))
  exact .tail (.tail (.single adds) makes) opens

/-- A scope for the same block is not mistaken for that of the guard, and what is
balanced is left as it was. -/
theorem leaves_scope_tampered :
    Session.start.Runs before ∧ (before.builder 0).stack ≠ [] ∧
      (Action.record 0 (Operation.createScope (.block 0)).perform).run.run before =
        (.ok (Operation.ofGuard guard), opened) ∧
      numbers before = [0] ∧ numbers opened = [1, 0] ∧
      (numbers (left replacing).2 = [3, 2] ∧ (left replacing).1.isOk = false) ∧
      (numbers (left balanced).2 = [0] ∧ (left balanced).1.isOk) ∧
      ∀ body : Course,
        let inside := HostT.outcome body.perform (opened, [])
        Session.Left 0 guard (before.builder 0).stack (inside.1, inside.2.1) (left body) := by
  have one : numbers before = [0] := by decide +kernel
  have nested : (before.builder 0).stack ≠ [] := by
    intro empty
    rw [numbers, empty] at one
    cases one
  refine ⟨before_reached, nested, rfl, one, by decide +kernel, by decide +kernel,
    by decide +kernel, fun body => ?_⟩
  exact Session.leaves_scope before_reached nested (.createScope (.block 0)) rfl rfl .refl body []

end Tampered

end FieldKernel
