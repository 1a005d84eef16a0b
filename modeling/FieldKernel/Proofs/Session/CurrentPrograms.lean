import FieldKernel.Proofs.Session.Attempts
import FieldKernel.Proofs.Session.Scripts

/-!
# The stack of current programs

Every block that makes a program current takes one entry of the program away at
its end, the innermost one, and so does the end of the program.  The stack is as
it should be as long as no program ends while it is current more than once: then
an entry of a program that has ended stays.
-/

namespace FieldKernel

/-- The last entry of an item is taken away with the first. -/
theorem erase_eq_filter_of_count_le_one {item : Nat} {items : List Nat}
    (single : items.count item ≤ 1) : items.erase item = items.filter (· != item) := by
  induction items with
  | nil => rfl
  | cons first rest hypothesis =>
      by_cases same : first = item
      · subst same
        have outside : first ∉ rest := by
          intro member
          have counted := List.count_pos_iff.mpr member
          rw [List.count_cons_self] at single
          omega
        rw [List.erase_cons_head]
        rw [List.filter_cons_of_neg (by simp)]
        exact (List.filter_eq_self.mpr fun other member => by
          simpa using fun equal : other = first => outside (equal ▸ member)).symm
      · rw [List.erase_cons_tail (by simpa using same), List.filter_cons_of_pos (by simpa using same),
          hypothesis (by rwa [List.count_cons_of_ne same] at single)]

/-- A program ends while it is current more than once. -/
def Doubles (moments : List Moment) (program : Nat) : Prop :=
  ∃ moment ∈ moments, moment.ends? = some program ∧
    (moment.session.program program).alive ∧ 2 ≤ moment.session.entered.count program

theorem Doubles.append {first second : List Moment} {program : Nat} :
    Doubles (first ++ second) program ↔ Doubles first program ∨ Doubles second program := by
  simp only [Doubles, List.mem_append, or_and_right, exists_or]

namespace Session

/-- A program has ended in between. -/
def ended (before after : Session) (program : Nat) : Bool :=
  (before.program program).alive && !(after.program program).alive

/-- How the stack of current programs comes from one session to another, by way
of some moments. -/
structure Passes (before after : Session) (moments : List Moment) : Prop where
  /-- No program begins again. -/
  alive {program : Nat} (alive : (after.program program).alive) : (before.program program).alive
  /-- The programs that have ended are taken away, if they were current once. -/
  entered {keep : Nat → Bool} (single : ∀ program, keep program → ¬Doubles moments program) :
    after.entered.filter keep =
      before.entered.filter fun program => keep program && !before.ended after program
  /-- What is current is alive, if it was. -/
  current {state : Session}
    (passed : state = after ∨ ∃ moment ∈ moments, moment.session = state) {program : Nat}
    (member : program ∈ state.entered) :
    (state.program program).alive ∨ Doubles moments program ∨
      program ∈ before.entered ∧ (before.program program).alive = false

namespace Passes

/-- Nothing has happened to programs. -/
theorem of_same {before after : Session} {moments : List Moment}
    (programs : ∀ program, (after.program program).alive = (before.program program).alive)
    (entered : after.entered = before.entered)
    (states : ∀ moment ∈ moments, moment.session = before) : before.Passes after moments where
  alive alive := programs _ ▸ alive
  entered {keep} _ := by
    rw [entered]
    refine List.filter_congr fun program _ => ?_
    simp [ended, programs]
  current {state} passed program member := by
    have same : state.entered = before.entered ∧
        (state.program program).alive = (before.program program).alive := by
      rcases passed with rfl | ⟨moment, among, rfl⟩
      · exact ⟨entered, programs program⟩
      · rw [states moment among]
        exact ⟨rfl, rfl⟩
    rw [same.1] at member
    rw [same.2]
    cases alive : (before.program program).alive with
    | true => exact .inl rfl
    | false => exact .inr (.inr ⟨member, rfl⟩)

theorem trans {before middle after : Session} {first second : List Moment}
    (passes : before.Passes middle first) (passes' : middle.Passes after second) :
    before.Passes after (first ++ second) where
  alive alive := passes.alive (passes'.alive alive)
  entered {keep} single := by
    have single₁ program (kept : keep program) : ¬Doubles first program := fun doubles =>
      single program kept (Doubles.append.mpr (.inl doubles))
    have single₂ program (kept : keep program) : ¬Doubles second program := fun doubles =>
      single program kept (Doubles.append.mpr (.inr doubles))
    rw [passes'.entered single₂, passes.entered fun program kept =>
      single₁ program (by simpa using (Bool.and_eq_true_iff.mp kept).1)]
    refine List.filter_congr fun program _ => ?_
    have earlier := @passes.alive program
    have later := @passes'.alive program
    unfold ended
    revert earlier later
    cases (before.program program).alive <;> cases (middle.program program).alive <;>
      cases (after.program program).alive <;> simp
  current {state} passed program member := by
    have early (state : Session)
        (passed : state = middle ∨ ∃ moment ∈ first, moment.session = state)
        (member : program ∈ state.entered) :
        (state.program program).alive ∨ Doubles (first ++ second) program ∨
          program ∈ before.entered ∧ (before.program program).alive = false := by
      rcases passes.current passed member with alive | doubles | stale
      · exact .inl alive
      · exact .inr (.inl (Doubles.append.mpr (.inl doubles)))
      · exact .inr (.inr stale)
    have late (passed : state = after ∨ ∃ moment ∈ second, moment.session = state) :
        (state.program program).alive ∨ Doubles (first ++ second) program ∨
          program ∈ before.entered ∧ (before.program program).alive = false := by
      rcases passes'.current passed member with alive | doubles | ⟨among, dead⟩
      · exact .inl alive
      · exact .inr (.inl (Doubles.append.mpr (.inr doubles)))
      · rcases early middle (.inl rfl) among with alive | rest
        · rw [dead] at alive
          cases alive
        · exact .inr rest
    rcases passed with rfl | ⟨moment, among, same⟩
    · exact late (.inl rfl)
    · rcases List.mem_append.mp among with among | among
      · exact early state (.inr ⟨moment, among, same⟩) member
      · exact late (.inr ⟨moment, among, same⟩)

/-- The entry that was made for a program is taken away at the end. -/
theorem leaving {before after : Session} {program : Nat} {moments : List Moment}
    (alive : (before.program program).alive)
    (passes : (before.entering program).Passes after moments) :
    before.Passes (after.leaving program) moments where
  alive alive := passes.alive alive
  entered {keep} single := by
    have inner := passes.entered single
    change (after.entered.erase program).filter keep = _
    rw [← List.erase_filter, inner]
    change ((program :: before.entered).filter fun program =>
      keep program && !before.ended after program).erase program = _
    by_cases kept : keep program && !before.ended after program
    · rw [List.filter_cons_of_pos (by exact kept), List.erase_cons_head]
      rfl
    · rw [List.filter_cons_of_neg (by exact kept), List.erase_of_not_mem]
      · rfl
      · intro member
        exact kept (List.mem_filter.mp member).2
  current {state} passed other member := by
    have inner (state : Session)
        (passed : state = after ∨ ∃ moment ∈ moments, moment.session = state)
        (member : other ∈ state.entered) :
        (state.program other).alive ∨ Doubles moments other ∨
          other ∈ before.entered ∧ (before.program other).alive = false := by
      rcases passes.current passed member with alive | doubles | ⟨among, dead⟩
      · exact .inl alive
      · exact .inr (.inl doubles)
      · rcases List.mem_cons.mp among with rfl | among
        · exact absurd alive (by simpa using dead)
        · exact .inr (.inr ⟨among, dead⟩)
    rcases passed with rfl | passed
    · exact inner after (.inl rfl) (List.mem_of_mem_erase member)
    · exact inner state (.inr passed) member

/-- The entry that was made for a program is gone if the program has ended. -/
theorem ended {before after : Session} {program : Nat} {moments : List Moment}
    (alive : (before.program program).alive) (dead : (after.program program).alive = false)
    (passes : (before.entering program).Passes after moments) : before.Passes after moments where
  alive alive := passes.alive alive
  entered {keep} single := by
    rw [passes.entered single]
    change (program :: before.entered).filter (fun program =>
      keep program && !before.ended after program) = _
    exact List.filter_cons_of_neg (by simp [Session.ended, alive, dead])
  current {state} passed other member := by
    rcases passes.current passed member with alive | doubles | ⟨among, dead⟩
    · exact .inl alive
    · exact .inr (.inl doubles)
    · rcases List.mem_cons.mp among with rfl | among
      · exact absurd alive (by simpa using dead)
      · exact .inr (.inr ⟨among, dead⟩)

/-- A program ends, and its innermost entry is taken away. -/
theorem teardown {session after : Session} {program : Nat}
    (run : (Action.teardown program).run.run session = (.ok (), after)) :
    session.Passes after [⟨session, some program⟩] ∧ (after.program program).alive = false := by
  by_cases alive : (session.program program).alive
  swap
  · rw [HostT.run_teardown_of_dead (by simpa using alive)] at run
    obtain rfl : session = after := (Prod.mk.inj run).2
    exact ⟨of_same (fun _ => rfl) rfl (by simp), by simpa using alive⟩
  obtain ⟨final, ran, entered, programs, _⟩ := HostT.run_teardown alive
  rw [ran] at run
  obtain rfl : final = after := (Prod.mk.inj run).2
  have changed := session.program_of_modified programs alive
  have dead : (final.program program).alive = false := by
    rw [changed, if_pos rfl]
  have others {other : Nat} (different : other ≠ program) :
      final.program other = session.program other := by
    rw [changed, if_neg different]
  have ends (other : Nat) : session.ended final other = (other == program) := by
    by_cases same : other = program
    · subst same
      simp [Session.ended, alive, dead]
    · simp [Session.ended, others same, same]
  refine ⟨⟨fun {other} alive' => ?_, fun {keep} single => ?_, fun {state} passed other member => ?_⟩,
    dead⟩
  · by_cases same : other = program
    · exact same ▸ alive
    · exact others same ▸ alive'
  · rw [entered, ← List.erase_filter]
    by_cases kept : keep program
    · have once : session.entered.count program ≤ 1 := by
        by_contra twice
        exact single program kept ⟨_, List.mem_singleton_self _, rfl, alive,
          Nat.lt_of_not_le twice⟩
      rw [erase_eq_filter_of_count_le_one ((List.filter_sublist.count_le program).trans once),
        List.filter_filter]
      refine List.filter_congr fun other _ => ?_
      rw [ends, Bool.and_comm]
      rfl
    · rw [List.erase_of_not_mem fun member => kept (List.mem_filter.mp member).2]
      refine List.filter_congr fun other _ => ?_
      rw [ends]
      by_cases same : other = program
      · subst same
        simp [kept]
      · simp [same]
  · have old (member : other ∈ session.entered) :
        (session.program other).alive ∨ Doubles [⟨session, some program⟩] other ∨
          other ∈ session.entered ∧ (session.program other).alive = false := by
      cases alive : (session.program other).alive with
      | true => exact .inl rfl
      | false => exact .inr (.inr ⟨member, rfl⟩)
    rcases passed with rfl | ⟨moment, among, rfl⟩
    · rw [entered] at member
      by_cases same : other = program
      · subst same
        refine .inr (.inl ⟨_, List.mem_singleton_self _, rfl, alive, ?_⟩)
        have left := List.count_pos_iff.mpr member
        rw [List.count_erase_self] at left
        exact Nat.lt_of_sub_pos left
      · rw [others same]
        exact old (List.mem_of_mem_erase member)
    · rw [List.mem_singleton.mp among] at member ⊢
      exact old member

end Passes

end Session

namespace HostT

variable {α : Type}

/-- The moments of a script are written down in their order. -/
def watch (moment : Moment) : StateM (List Moment) Unit :=
  modify (· ++ [moment])

/-- What happens between two sessions, and is written down, is a passage of the
stack of current programs. -/
def Passage (start final : Session × List Moment) : Prop :=
  ∃ moments, final.2 = start.2 ++ moments ∧ start.1.Passes final.1 moments

instance : IsPreorder (Session × List Moment) Passage where
  refl start := ⟨[], (List.append_nil _).symm, .of_same (fun _ => rfl) rfl nofun⟩
  trans := by
    rintro start middle final ⟨first, written, passes⟩ ⟨second, written', passes'⟩
    exact ⟨first ++ second, by rw [written', written, List.append_assoc], passes.trans passes'⟩

/-- An action that has nothing to do with current programs. -/
theorem quiet_passage {action : Action α}
    (alive : ∀ session program,
      ((action.run.run session).2.program program).alive = (session.program program).alive)
    (entered : ∀ session, (action.run.run session).2.entered = session.entered) :
    Follows Passage (lift action : HostT (StateM (List Moment)) α) :=
  fun start => ⟨[], (List.append_nil _).symm, .of_same (alive start.1) (entered start.1) nofun⟩

theorem mark_passage (ends? : Option Nat) : Follows Passage (mark watch ends?) :=
  fun start => ⟨[⟨start.1, ends?⟩], rfl, .of_same (fun _ => rfl) rfl (by simp)⟩

theorem activated_passage (program : Nat) {inside : HostT (StateM (List Moment)) α}
    (follows : Follows Passage inside) : Follows Passage (activated program inside) := by
  rintro ⟨session, written⟩
  by_cases alive : (session.program program).alive
  · obtain ⟨moments, more, passes⟩ := follows (session.entering program, written)
    rw [outcome_activated inside alive]
    revert more passes
    rcases outcome inside (session.entering program, written) with ⟨ended, after, written'⟩
    exact fun more passes => ⟨moments, more, passes.leaving alive⟩
  · rw [outcome_activated_of_dead inside (by simpa using alive)]
    exact refl_of Passage (session, written)

/-- A program ends with the block that made it current, and what is written down
before says so. -/
theorem during_passage (program : Nat) {body : HostT (StateM (List Moment)) Unit}
    (follows : Follows Passage body) :
    Follows Passage (during program do
      let outcome ← observe body
      mark watch (some program)
      lift (Action.ofExcept outcome)) := by
  rintro ⟨session, written⟩
  by_cases alive : (session.program program).alive
  swap
  · rw [outcome_during_of_dead _ (by simpa using alive)]
    exact refl_of Passage (session, written)
  obtain ⟨moments, more, passes⟩ := follows (session.entering program, written)
  rw [outcome_during _ alive, outcome_bind, outcome_observe]
  revert more passes
  rcases outcome body (session.entering program, written) with ⟨ended, after, written'⟩
  intro more passes
  dsimp only at more passes ⊢
  rw [outcome_bind, outcome_mark]
  obtain ⟨final, run⟩ := teardown_ok after program
  obtain ⟨torn, dead⟩ := Session.Passes.teardown run
  change Passage (session, written) (((Action.teardown program).run.run after).2,
    written' ++ [⟨after, some program⟩])
  rw [run]
  exact ⟨moments ++ [⟨after, some program⟩], by rw [more, List.append_assoc],
    (passes.trans torn).ended alive dead⟩

theorem teardown_passage (program : Nat) :
    Follows Passage (mark watch (some program) >>= fun _ => lift (Action.teardown program)) := by
  rintro ⟨session, written⟩
  obtain ⟨final, run⟩ := teardown_ok session program
  rw [outcome_bind, outcome_mark]
  change Passage (session, written) (((Action.teardown program).run.run session).2,
    written ++ [⟨session, some program⟩])
  rw [run]
  exact ⟨_, rfl, (Session.Passes.teardown run).1⟩

/-- A change to a program other than its end. -/
theorem alive_modified {session after : Session} {program : Nat} {change : Program → Program}
    (programs : after.programs = session.programs.modify program change)
    (keeps : ∀ entry, (change entry).alive = entry.alive) (other : Nat) :
    (after.program other).alive = (session.program other).alive := by
  rw [Session.program, programs, Array.getElem?_modify, Session.program]
  split
  · cases session.programs[other]? with
    | none => rfl
    | some entry => exact keeps entry
  · rfl

theorem define_passage (program : Nat) (name : String) (types : List HostValue)
    {callback : List Expr → HostT (StateM (List Moment)) Unit}
    (follows : ∀ arguments, Follows Passage (callback arguments)) :
    Follows Passage (define program name types callback) := by
  have recorded (builder : Nat) {β : Type} (attempt : Record β) :
      Follows Passage (lift (Action.record builder attempt)) :=
    quiet_passage (fun _ _ => rfl) fun _ => rfl
  have body (kernel : Nat) : Follows Passage (recordBody kernel callback) := by
    refine .bind (fun start => refl_of Passage start) fun session => ?_
    refine (recorded _ _).bind fun _ => .bind (.observe ?_) fun outcome => ?_
    · refine .bind (quiet_passage (fun _ _ => rfl) fun _ => rfl) fun arguments => ?_
      exact (follows arguments).bind fun _ => (recorded _ _).bind fun _ => .pure _
    · cases outcome with
      | ok result => exact .pure result
      | error error =>
          dsimp only
          split
          · exact .throw _
          · exact .bind (quiet_passage (fun _ _ => rfl) fun _ => rfl) fun _ => .throw _
  refine .bind (quiet_passage (fun session _ => by rw [run_checkAlive])
    fun session => by rw [run_checkAlive]) fun _ => ?_
  refine .bind (quiet_passage (fun _ _ => rfl) fun _ => rfl) fun argTypes => ?_
  refine .bind (quiet_passage (fun session other => ?_) fun _ => rfl) fun kernel => ?_
  · obtain ⟨number, same⟩ := session.program_preparing program name argTypes other
    rw [run_nextKernel, same]
  refine (activated_passage program (body kernel)).bind fun _ => .bind ?_ fun _ => .pure kernel
  refine quiet_passage (fun session other => ?_) fun _ => rfl
  obtain ⟨final, run, _, _, _, _, programs⟩ := run_register session kernel
  rw [run]
  exact alive_modified programs (fun _ => rfl) other

end HostT

/-- Runs a script and writes down its moments. -/
abbrev Script.watched (script : Script) : HostT (StateM (List Moment)) Unit :=
  script.perform HostT.watch

theorem Script.passage (script : Script) : script.watched.Follows HostT.Passage := by
  induction script with
  | finish => exact HostT.mark_passage none
  | raise error => exact (HostT.mark_passage none).bind fun _ => .throw error
  | record builder operation next hypothesis =>
      exact (HostT.mark_passage none).bind fun _ => .bind
        (.observe (HostT.quiet_passage (fun _ _ => rfl) fun _ => rfl)) hypothesis
  | define program name types body next hypothesis continues =>
      exact (HostT.mark_passage none).bind fun _ => .bind
        (.observe (HostT.define_passage program name types hypothesis)) continues
  | activated program body next hypothesis continues =>
      exact (HostT.mark_passage none).bind fun _ => .bind
        (.observe (HostT.activated_passage program hypothesis)) continues
  | during program body next hypothesis continues =>
      exact (HostT.mark_passage none).bind fun _ => .bind
        (.observe (HostT.during_passage program hypothesis)) continues
  | teardown program next hypothesis =>
      have ended : (Script.teardown program next).watched =
          ((HostT.mark HostT.watch (some program) >>= fun _ =>
            HostT.lift (Action.teardown program)) >>= fun _ => next.watched) := by
        rw [bind_assoc]
        rfl
      rw [ended]
      exact (HostT.teardown_passage program).bind fun _ => hypothesis

/-- The program that was entered last is the current one; without one there is
nothing but an error. -/
theorem HostT.run_currentProgram (session : Session) :
    (Action.currentProgram.run.run session).1 =
      match session.entered with
      | program :: _ => .ok program
      | [] => .error (.program .noneCurrent) := by
  change ((match session.entered with
    | program :: _ => pure program
    | [] => throw (.program .noneCurrent) : Action Nat).run.run session).1 = _
  cases session.entered <;> rfl

/-- A program that ends while it is current more than once is still current
somewhere after its end. -/
theorem Doubles.left {moments : List Moment} {program : Nat} (doubles : Doubles moments program) :
    ∃ moment ∈ moments, moment.ends? = some program ∧
      ∃ after, (Action.teardown program).run.run moment.session = (.ok (), after) ∧
        program ∈ after.entered ∧ (after.program program).alive = false := by
  obtain ⟨moment, member, ends, alive, twice⟩ := doubles
  obtain ⟨after, run, entered, _⟩ := HostT.run_teardown alive
  refine ⟨moment, member, ends, after, run, ?_, (Session.Passes.teardown run).2⟩
  rw [entered, ← List.count_pos_iff, List.count_erase_self]
  omega

/-- After any script the stack of current programs is the one from before without
the programs that have ended meanwhile, and at every moment a live program is
current or none, apart from the programs that ended while they were current more
than once (and from those that had ended before and were current already).
A program that ended so is left on the stack. -/
theorem Script.current_programs (script : Script) (session : Session) :
    let ended := HostT.outcome script.watched (session, [])
    (∀ keep : Nat → Bool, (∀ program, keep program → ¬Doubles ended.2.2 program) →
      ended.2.1.entered.filter keep = session.entered.filter fun program =>
        keep program && !session.ended ended.2.1 program) ∧
    (∀ state, (state = ended.2.1 ∨ ∃ moment ∈ ended.2.2, moment.session = state) →
      match (Action.currentProgram.run.run state).1 with
      | .ok program => (state.program program).alive ∨ Doubles ended.2.2 program ∨
          program ∈ session.entered ∧ (session.program program).alive = false
      | .error error => error = .program .noneCurrent) ∧
    ∀ program, Doubles ended.2.2 program → ∃ moment ∈ ended.2.2, moment.ends? = some program ∧
      ∃ after, (Action.teardown program).run.run moment.session = (.ok (), after) ∧
        program ∈ after.entered ∧ (after.program program).alive = false := by
  obtain ⟨moments, written, passes⟩ := script.passage (session, [])
  dsimp only
  rw [written, List.nil_append]
  refine ⟨fun keep single => passes.entered single, fun state passed => ?_, fun _ => Doubles.left⟩
  rw [HostT.run_currentProgram]
  have current (program : Nat) (member : program ∈ state.entered) := passes.current passed member
  revert current
  cases state.entered with
  | nil => exact fun _ => rfl
  | cons program rest => exact fun current => current program List.mem_cons_self

namespace Reentered

/-- Two programs, the first of which is current. -/
def session : Session :=
  ((do
    let outer ← Action.newProgram none
    let _ ← Action.newProgram none
    Action.enter outer : Action Unit).run.run .start).2

/-- The second program is entered twice. -/
def block : Script :=
  .during 1 (.during 1 .finish fun _ => .finish) fun _ => .finish

/-- The block is left, and the program that ended in it is the current one. -/
theorem current_after_end :
    session.entered = [0] ∧
      (HostT.outcome block.watched (session, [])).2.1.entered = [1, 0] ∧
      ((HostT.outcome block.watched (session, [])).2.1.program 1).alive = false ∧
      (Action.currentProgram.run.run (HostT.outcome block.watched (session, [])).2.1).1 =
        .ok 1 := by
  have entered : (HostT.outcome block.watched (session, [])).2.1.entered = [1, 0] := by
    decide +kernel
  refine ⟨by decide +kernel, entered, by decide +kernel, ?_⟩
  rw [HostT.run_currentProgram, entered]

end Reentered

end FieldKernel
