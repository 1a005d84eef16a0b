import FieldKernel.Proofs.Session.Actions

/-!
# Attempts to compile

An attempt to compile a kernel ends in one of five ways: what the kernel was
compiled to is used again, an earlier failure is brought up again, the kernel
is compiled, compiling it fails, or it breaks off with a fault of the host.
Each time it is said what is different in the session afterwards.
-/

namespace FieldKernel

namespace Session

/-- A look-up is counted for a program. -/
def counted (session : Session) (program : Nat) (hit : Bool) : Session :=
  { session with
    programs := session.programs.modify program fun entry =>
      if hit then { entry with hits := entry.hits + 1 }
      else { entry with misses := entry.misses + 1 } }

/-- What belongs to a kernel is changed. -/
def changed (session : Session) (kernel : Nat) (change : Kernel → Kernel) : Session :=
  { session with kernels := session.kernels.modify kernel change }

/-- Whether a kernel is compiled for a target. -/
def holds (session : Session) (kernel : Nat) (arch : Arch) : Bool :=
  (session.kernel kernel).compiled?.any fun id =>
    session.compiled[id]?.any (·.fingerprint = arch)

section Entries

variable (session : Session)

@[simp] theorem kernel_counted (program : Nat) (hit : Bool) (kernel : Nat) :
    (session.counted program hit).kernel kernel = session.kernel kernel :=
  rfl

@[simp] theorem program_changed (kernel : Nat) (change : Kernel → Kernel) (program : Nat) :
    (session.changed kernel change).program program = session.program program :=
  rfl

theorem kernel_changed_self {kernel : Nat} (known : kernel < session.kernels.size)
    (change : Kernel → Kernel) :
    (session.changed kernel change).kernel kernel = change (session.kernel kernel) := by
  simp [changed, Objects.kernel, Array.getElem_modify, known]

theorem kernel_changed_of_ne {kernel other : Nat} (different : other ≠ kernel)
    (change : Kernel → Kernel) :
    (session.changed kernel change).kernel other = session.kernel other := by
  simp [changed, Objects.kernel, Array.getElem?_modify, different.symm]

theorem changed_congr {kernel : Nat} {change : Kernel → Kernel} (other : Kernel → Kernel)
    (same : change (session.kernel kernel) = other (session.kernel kernel)) :
    session.changed kernel change = session.changed kernel other := by
  have kernels : session.kernels.modify kernel change = session.kernels.modify kernel other := by
    apply Array.ext_getElem?
    intro id
    rw [Array.getElem?_modify, Array.getElem?_modify]
    split
    · next equal =>
      rw [Objects.kernel, equal] at same
      cases held : session.kernels[id]? with
      | none => rfl
      | some entry =>
          rw [held] at same
          exact congrArg some same
    · rfl
  rw [changed, changed, kernels]

/-- Nothing changes if the kernel is as the change would make it. -/
theorem changed_eq_self {kernel : Nat} {change : Kernel → Kernel}
    (same : change (session.kernel kernel) = session.kernel kernel) :
    session.changed kernel change = session := by
  have kernels : session.kernels.modify kernel id = session.kernels := by
    apply Array.ext_getElem?
    intro number
    rw [Array.getElem?_modify]
    split
    · rw [Option.map_id, id]
    · rfl
  rw [session.changed_congr id same, changed, kernels]

/-- There is a program that is alive. -/
theorem lt_of_alive {program : Nat} (alive : (session.program program).alive) :
    program < session.programs.size := by
  by_contra outside
  rw [Session.program, Array.getElem?_eq_none (by omega)] at alive
  cases alive

theorem program_modified_self {program : Nat} (alive : (session.program program).alive)
    (change : Program → Program) :
    Session.program { session with programs := session.programs.modify program change } program =
      change (session.program program) := by
  simp [Session.program, Array.getElem_modify, session.lt_of_alive alive]

theorem program_modified_of_ne {program other : Nat} (different : other ≠ program)
    (change : Program → Program) :
    Session.program { session with programs := session.programs.modify program change } other =
      session.program other := by
  simp [Session.program, Array.getElem?_modify, different.symm]

/-- A program has been changed, and the others have not. -/
theorem program_of_modified {after : Session} {program : Nat} {change : Program → Program}
    (programs : after.programs = session.programs.modify program change)
    (alive : (session.program program).alive) (other : Nat) :
    after.program other =
      if other = program then change (session.program program) else session.program other := by
  have same : after.program other =
      Session.program { session with programs := session.programs.modify program change } other := by
    rw [Session.program, programs]
    rfl
  rw [same]
  split
  · next here => rw [here, session.program_modified_self alive]
  · next different => rw [session.program_modified_of_ne different]

/-- A look-up that is counted does not change the configuration of a program. -/
theorem config_counted (program : Nat) (hit : Bool) (other : Nat) :
    ((session.counted program hit).program other).config = (session.program other).config := by
  simp only [counted, Session.program, Array.getElem?_modify]
  split
  · cases session.programs[other]? with
    | none => rfl
    | some entry => cases hit <;> rfl
  · rfl

end Entries

/-- How an attempt to compile a kernel for a target ends, and in what session. -/
inductive Attempted (session : Session) (kernel : Nat) (arch : Arch) :
    Except Error Nat → Session → Prop where
  | reused {id : Nat} : session.holds kernel arch →
      (session.kernel kernel).compiled? = some id →
      Attempted session kernel arch (.ok id)
        ((session.counted (session.kernel kernel).program true).changed kernel fun entry =>
          { entry with state := if entry.state = .failed then .compiled else entry.state })
  | recalled {failure : Error} : session.holds kernel arch = false →
      (session.kernel kernel).failures.lookup arch = some failure →
      Attempted session kernel arch (.error failure)
        ((session.counted (session.kernel kernel).program false).changed kernel fun entry =>
          { entry with state := .failed })
  | compiled {ir : KernelIR} {slots : TypeSlots} {log : Array LogRecord} :
      session.holds kernel arch = false → (session.kernel kernel).failures.lookup arch = none →
      arch = .x86 → ir.target = .member arch →
      Attempted session kernel arch (.ok session.compiled.size)
        { (session.counted (session.kernel kernel).program false).changed kernel fun entry =>
            { entry with
              compiled? := some session.compiled.size
              compileCount := entry.compileCount + 1
              state := .compiled } with
          compiled := session.compiled.push ⟨ir, arch⟩
          slots := slots
          log := log }
  | failed {failure : Error} {slots : TypeSlots} {log : Array LogRecord} :
      session.holds kernel arch = false → (session.kernel kernel).failures.lookup arch = none →
      failure.isOwn →
      Attempted session kernel arch (.error failure)
        { (session.counted (session.kernel kernel).program false).changed kernel fun entry =>
            { entry with failures := (arch, failure) :: entry.failures, state := .failed } with
          slots := slots
          log := log }
  | broken {fault : Error} {slots : TypeSlots} {log : Array LogRecord} :
      session.holds kernel arch = false → (session.kernel kernel).failures.lookup arch = none →
      fault.isOwn = false →
      Attempted session kernel arch (.error fault)
        { session.counted (session.kernel kernel).program false with slots := slots, log := log }

section Attempted

variable {session after : Session} {kernel : Nat} {arch : Arch} {answer : Except Error Nat}

/-- An attempt counts one look-up. -/
theorem Attempted.program (attempted : session.Attempted kernel arch answer after)
    (alive : (session.program (session.kernel kernel).program).alive) :
    after.program (session.kernel kernel).program =
      if session.holds kernel arch then
        { session.program (session.kernel kernel).program with
          hits := (session.program (session.kernel kernel).program).hits + 1 }
      else
        { session.program (session.kernel kernel).program with
          misses := (session.program (session.kernel kernel).program).misses + 1 } := by
  have counted (hit : Bool) := session.program_modified_self alive fun entry =>
    if hit then { entry with hits := entry.hits + 1 } else { entry with misses := entry.misses + 1 }
  cases attempted with
  | reused matching =>
      rw [matching]
      exact counted true
  | recalled vacant =>
      rw [vacant]
      exact counted false
  | compiled vacant =>
      rw [vacant]
      exact counted false
  | failed vacant =>
      rw [vacant]
      exact counted false
  | broken vacant =>
      rw [vacant]
      exact counted false

theorem Attempted.size (attempted : session.Attempted kernel arch answer after) :
    after.kernels.size = session.kernels.size := by
  cases attempted with
  | broken => rfl
  | _ => exact Array.size_modify

theorem Attempted.other (attempted : session.Attempted kernel arch answer after) {other : Nat}
    (different : other ≠ kernel) : after.kernel other = session.kernel other := by
  cases attempted with
  | broken => rfl
  | _ => exact session.kernel_changed_of_ne different _

/-- What kernels were compiled to before is there still. -/
theorem Attempted.kept (attempted : session.Attempted kernel arch answer after) (id : Nat)
    (compiled : CompiledKernel) (found : session.compiled[id]? = some compiled) :
    after.compiled[id]? = some compiled := by
  cases attempted with
  | compiled =>
      have below := (Array.getElem?_eq_some_iff.mp found).1
      rw [Array.getElem?_push_lt below]
      exact Array.getElem?_eq_some_iff.mp found |>.2 ▸ rfl
  | _ => exact found

theorem Attempted.name (attempted : session.Attempted kernel arch answer after)
    (known : kernel < session.kernels.size) :
    (after.kernel kernel).name = (session.kernel kernel).name := by
  have changed (change : Kernel → Kernel) (same : ∀ entry, (change entry).name = entry.name) :
      ((session.changed kernel change).kernel kernel).name = (session.kernel kernel).name := by
    rw [session.kernel_changed_self known, same]
  cases attempted with
  | broken => rfl
  | _ => exact changed _ fun _ => rfl

/-- No attempt makes a kernel an invoked one. -/
theorem Attempted.uninvoked (attempted : session.Attempted kernel arch answer after)
    (known : kernel < session.kernels.size) {other : Nat}
    (invoked : (after.kernel other).state = .invoked) :
    (session.kernel other).state = .invoked := by
  by_cases same : other = kernel
  · subst same
    have changed (change : Kernel → Kernel) :=
      congrArg Kernel.state (session.kernel_changed_self known change)
    cases attempted with
    | reused =>
        have restored := (changed fun entry =>
          { entry with
            state := if entry.state = .failed then .compiled else entry.state }).symm.trans invoked
        dsimp only at restored
        split at restored
        · cases restored
        · exact restored
    | recalled => cases (changed fun entry => { entry with state := .failed }).symm.trans invoked
    | compiled =>
        cases (changed fun entry => { entry with
          compiled? := some session.compiled.size
          compileCount := entry.compileCount + 1
          state := .compiled }).symm.trans invoked
    | @failed failure =>
        cases (changed fun entry => { entry with
          failures := (arch, failure) :: entry.failures
          state := .failed }).symm.trans invoked
    | broken => exact invoked
  · rw [← attempted.other same]
    exact invoked

/-- What failed earlier for the target is brought up again. -/
theorem Attempted.of_lookup (attempted : session.Attempted kernel arch answer after)
    (vacant : session.holds kernel arch = false) {failure : Error}
    (earlier : (session.kernel kernel).failures.lookup arch = some failure) :
    answer = .error failure ∧
      after = (session.counted (session.kernel kernel).program false).changed kernel fun entry =>
        { entry with state := .failed } := by
  have other (unfailed : (session.kernel kernel).failures.lookup arch = none) : False := by
    rw [earlier] at unfailed
    cases unfailed
  cases attempted with
  | reused matching =>
      rw [vacant] at matching
      cases matching
  | recalled _ same =>
      rw [earlier] at same
      cases same
      exact ⟨rfl, rfl⟩
  | compiled _ unfailed => exact (other unfailed).elim
  | failed _ unfailed => exact (other unfailed).elim
  | broken _ unfailed => exact (other unfailed).elim

/-- What the kernel is compiled to for the target is used again. -/
theorem Attempted.of_holds (attempted : session.Attempted kernel arch answer after)
    (matching : session.holds kernel arch) {id : Nat}
    (held : (session.kernel kernel).compiled? = some id) :
    answer = .ok id ∧
      after = (session.counted (session.kernel kernel).program true).changed kernel fun entry =>
        { entry with state := if entry.state = .failed then .compiled else entry.state } := by
  have other (vacant : session.holds kernel arch = false) : False := by
    rw [matching] at vacant
    cases vacant
  cases attempted with
  | reused _ same =>
      rw [held] at same
      cases same
      exact ⟨rfl, rfl⟩
  | recalled vacant => exact (other vacant).elim
  | compiled vacant => exact (other vacant).elim
  | failed vacant => exact (other vacant).elim
  | broken vacant => exact (other vacant).elim

end Attempted

end Session

namespace Action

variable {α : Type} {session : Session} {before : Session → Prop}
  {after : α → Session → Prop} {failed : Error → Session → Prop}

/-- A session with other type slots and another log. -/
def Noted (session state : Session) : Prop :=
  ∃ slots log, state = { session with slots := slots, log := log }

theorem report_notes (record : LogRecord) :
    Ensures (Noted session) (report record) (fun _ => Noted session) failed := by
  apply Ensures.modify
  rintro state ⟨slots, log, rfl⟩
  exact ⟨slots, log.push record, rfl⟩

theorem listCode_notes (entry : Kernel) (config : CompileConfig) (body : List Stmt)
    (ir : KernelIR) :
    Ensures (Noted session) (listCode entry config body ir) (fun _ => Noted session)
      fun _ => Noted session := by
  have truth : Ensures (Noted session) (liftM (Ask.truth config.printIR) : Action Bool)
      (fun _ => Noted session) fun _ => Noted session :=
    ensures_ask (fun _ _ _ now => now) fun _ _ _ now => now
  refine truth.bind fun wanted => ?_
  cases wanted with
  | false => exact .pure fun _ now => now
  | true =>
      refine Ensures.get fun state now => ?_
      have recorded := (Keeps.ask (Ask.ofHost (Stmt.blockText state.rendering body))).here now
      refine recorded.bind fun text => (report_notes _).bind fun _ => ?_
      refine (Keeps.ofExcept (unnamed ir.target)).bind fun arch => ?_
      exact (Keeps.ask (Ask.ofHost (ir.textFor state.rendering arch))).bind fun _ => report_notes _

theorem target_of_ofBody {name : String} {target : ArchSetting} {context : LoweringContext}
    {body : List Stmt} {slots : TypeSlots} {ir : KernelIR}
    (lowered : (KernelIR.ofBody name target context body slots).1 = .ok ir) :
    ir.target = target := by
  simp only [KernelIR.ofBody] at lowered
  revert lowered
  rcases (Lower.block context body).run.run (Lowering.start slots) with ⟨error | ops, state⟩
  · intro lowered
    cases lowered
  · intro lowered
    cases lowered
    rfl

/-- Lowering changes nothing but type slots and the log, and is accomplished
only for a target that there is a device for. -/
theorem lowerKernel_notes (kernel : Nat) (arch : Arch) :
    Ensures (· = session) (lowerKernel kernel arch)
      (fun ir state => Noted session state ∧ arch = .x86 ∧
        ir.target = (session.program (session.kernel kernel).program).config.target)
      fun _ => Noted session := by
  refine Ensures.get fun state same => ?_
  subst same
  dsimp only
  generalize lowered : KernelIR.ofBody _ _ _ _ _ = result
  obtain ⟨outcome, slots⟩ := result
  dsimp only
  have settles : Ensures (· = state)
      (modify fun session => { session with slots := slots } : Action Unit)
      (fun _ => Noted state) fun _ => Noted state := by
    apply Ensures.modify
    rintro _ rfl
    exact ⟨_, _, rfl⟩
  refine settles.bind fun _ => ?_
  have answered : Ensures (Noted state) (ofExcept outcome)
      (fun ir now => Noted state now ∧
        ir.target = (state.program (state.kernel kernel).program).config.target)
      fun _ => Noted state := by
    refine ensures_ofExcept (fun ir _ ends now => ⟨now, ?_⟩) fun _ _ _ now => now
    exact target_of_ofBody ((congrArg Prod.fst lowered).trans ends)
  refine answered.bind fun ir => ?_
  rintro now ⟨noted, target⟩
  have checked : Ensures (Noted state) (ofExcept (checkDevice arch))
      (fun _ now => Noted state now ∧ arch = .x86) fun _ => Noted state := by
    refine ensures_ofExcept (fun _ _ ends now => ⟨now, ?_⟩) fun _ _ _ now => now
    cases arch with
    | x86 => rfl
    | gpu => cases ends
  have rest : Ensures (Noted state)
      (do
        listCode (state.kernel kernel) (state.program (state.kernel kernel).program).config
          (state.recording.body (state.kernel kernel).body) ir
        ofExcept (checkDevice arch)
        return ir)
      (fun ir now => Noted state now ∧ arch = .x86 ∧
        ir.target = (state.program (state.kernel kernel).program).config.target)
      fun _ => Noted state :=
    (listCode_notes _ _ _ _).bind fun _ => checked.bind fun _ =>
      .pure fun _ holds => ⟨holds.1, holds.2, target⟩
  exact rest now noted

section Compiling

variable {kernel : Nat} {arch : Arch}

/-- What was lowered is kept. -/
theorem keep_ensures {ir : KernelIR}
    (target : (session.program (session.kernel kernel).program).config.target = .member arch) :
    Ensures (Noted session) (keep kernel arch ir)
      (fun id now => id = session.compiled.size ∧ ∃ slots log, now =
        { session.changed kernel fun entry =>
            { entry with
              compiled? := some session.compiled.size
              compileCount := entry.compileCount + 1
              state := .compiled } with
          compiled := session.compiled.push ⟨ir, arch⟩
          slots := slots
          log := log })
      failed := by
  refine Ensures.get fun state noted => ?_
  have read : (state.program (state.kernel kernel).program).config.target = .member arch := by
    obtain ⟨slots, log, rfl⟩ := noted
    exact target
  dsimp only
  rw [read]
  rintro _ rfl
  obtain ⟨slots, log, rfl⟩ := noted
  exact ⟨rfl, _, _, rfl⟩

/-- The reason of a failure is kept, unless it cannot be written. -/
theorem fail_ensures {cause : Error}
    (target : (session.program (session.kernel kernel).program).config.target = .member arch) :
    Ensures (Noted session) (fail kernel arch cause)
      (fun failure now => failure.isOwn ∧ ∃ slots log, now =
        { session.changed kernel fun entry =>
            { entry with failures := (arch, failure) :: entry.failures, state := .failed } with
          slots := slots
          log := log })
      fun fault now => fault.isOwn = false ∧ Noted session now := by
  refine Ensures.get fun state noted => ?_
  have read : (state.program (state.kernel kernel).program).config.target = .member arch := by
    obtain ⟨slots, log, rfl⟩ := noted
    exact target
  dsimp only
  rw [read]
  have written : Ensures (· = state) (liftM (Ask.ofHost cause.message) : Action String)
      (fun _ now => now = state) fun fault now => fault.isOwn = false ∧ Noted session now := by
    refine ensures_ask (fun _ _ _ same => same) fun fault _ refused same => ?_
    refine ⟨?_, same ▸ noted⟩
    cases message : cause.message with
    | ok _ =>
        rw [message] at refused
        cases refused
    | error _ =>
        rw [message] at refused
        cases refused
        rfl
  refine written.bind fun message => ?_
  rintro _ rfl
  obtain ⟨slots, log, rfl⟩ := noted
  exact ⟨rfl, _, _, rfl⟩

/-- Compiling what is neither compiled nor known to fail. -/
theorem compileFresh_attempted
    (target : (session.program (session.kernel kernel).program).config.target = .member arch)
    (vacant : session.holds kernel arch = false) :
    Ensures (· = session) (compileFresh kernel arch)
      (fun id => session.Attempted kernel arch (.ok id))
      fun error => session.Attempted kernel arch (.error error) := by
  refine Ensures.get fun state same => ?_
  subst same
  have counts : Ensures (· = state) (countLookup (state.kernel kernel).program false)
      (fun _ now => now = state.counted (state.kernel kernel).program false)
      fun error => state.Attempted kernel arch (.error error) := by
    apply Ensures.modify
    rintro _ rfl
    rfl
  refine counts.bind fun _ => ?_
  cases earlier : (state.kernel kernel).failures.lookup arch with
  | some failure =>
      have fails : Ensures (fun now => now = state.counted (state.kernel kernel).program false)
          (setState kernel .failed)
          (fun _ => state.Attempted kernel arch (.error failure))
          fun error => state.Attempted kernel arch (.error error) := by
        apply Ensures.modify
        rintro _ rfl
        exact .recalled vacant earlier
      exact fails.bind fun _ => fun _ attempted => attempted
  | none =>
      have counted := (congrArg CompileConfig.target (state.config_counted
        (state.kernel kernel).program false (state.kernel kernel).program)).trans target
      refine (ensures_observe (lowerKernel_notes kernel arch)).bind fun outcome => ?_
      cases outcome with
      | ok ir =>
          rintro now ⟨holds, _⟩
          obtain ⟨noted, native, same⟩ := holds ir rfl
          refine (keep_ensures counted).weaken (fun _ noted => noted) (fun id now kept => ?_) now noted
          obtain ⟨rfl, slots, log, rfl⟩ := kept
          exact .compiled vacant earlier native (same.trans counted)
      | error error =>
          rintro now ⟨_, holds⟩
          have noted := holds error rfl
          dsimp only
          cases own : error.isOwn with
          | false =>
              obtain ⟨slots, log, rfl⟩ := noted
              exact .broken vacant earlier own
          | true =>
              have fails : Ensures (Noted (state.counted (state.kernel kernel).program false))
                  (fail kernel arch error >>= fun failure => throw failure : Action Nat)
                  (fun id => state.Attempted kernel arch (.ok id))
                  fun fault => state.Attempted kernel arch (.error fault) := by
                refine ((fail_ensures counted).failing ?_).bind fun failure => ?_
                · rintro fault _ ⟨foreign, slots, log, rfl⟩
                  exact .broken vacant earlier foreign
                · rintro _ ⟨isOwn, slots, log, rfl⟩
                  exact .failed vacant earlier isOwn
              exact fails now noted

/-- An attempt to compile a kernel that is defined ends in one of the ways. -/
theorem compile_attempted
    (alive : (session.program (session.kernel kernel).program).alive)
    (isDefined : (session.kernel kernel).state ≠ .defining)
    (target : (session.program (session.kernel kernel).program).config.target = .member arch) :
    session.Attempted kernel arch ((compile kernel).run.run session).1
      ((compile kernel).run.run session).2 := by
  have ends : Ensures (· = session) (compile kernel)
      (fun id => session.Attempted kernel arch (.ok id))
      fun error => session.Attempted kernel arch (.error error) := by
    refine Ensures.get fun state same => ?_
    subst same
    have living : Ensures (· = state) (checkAlive (state.kernel kernel).program)
        (fun _ now => now = state) fun error => state.Attempted kernel arch (.error error) := by
      refine Ensures.get fun now same => ?_
      subst same
      simp only [alive, if_true]
      exact .pure fun _ same => same
    refine living.bind fun _ => ?_
    simp only [isDefined, if_false]
    have meant : Ensures (· = state)
        (ofExcept (fingerprint (state.program (state.kernel kernel).program).config))
        (fun found now => found = arch ∧ now = state)
        fun error => state.Attempted kernel arch (.error error) := by
      have found : fingerprint (state.program (state.kernel kernel).program).config = .ok arch := by
        simp only [fingerprint, CompileConfig.fingerprint?, target, ArchSetting.arch?]
      rw [found]
      exact .pure fun _ same => ⟨rfl, same⟩
    refine meant.bind fun found => ?_
    rintro now ⟨equal, same⟩
    subst equal same
    cases held : (now.kernel kernel).compiled? with
    | none => exact compileFresh_attempted target (by simp [Session.holds, held]) now rfl
    | some number =>
        cases fits : now.compiled[number]?.any (·.fingerprint = found) with
        | false =>
            simp only [fits, Bool.false_eq_true, if_false]
            exact compileFresh_attempted target (by simp [Session.holds, held, fits]) now rfl
        | true =>
            simp only [fits, if_true]
            have matching : now.holds kernel found := by simp [Session.holds, held, fits]
            have reused := Session.Attempted.reused matching held
            by_cases spoiled : (now.kernel kernel).state = .failed
            · rw [Session.changed_congr _ fun entry => { entry with state := .compiled }] at reused
              · simp only [spoiled, if_true]
                exact reused
              · simp [spoiled]
            · rw [Session.changed_eq_self] at reused
              · simp only [spoiled, if_false]
                exact reused
              · simp [spoiled]
  have holds := ends session rfl
  revert holds
  rcases (compile kernel).run.run session with ⟨error | number, after⟩
  · exact id
  · exact id

end Compiling

end Action

/-- Kernels, what they were compiled to and, but for their storages, programs are
the same. -/
structure Session.Aside (before after : Session) : Prop where
  kernels : after.kernels = before.kernels
  compiled : after.compiled = before.compiled
  program (id : Nat) : ∃ storage?, after.program id = { before.program id with storage? := storage? }

theorem Session.Aside.kernel {before after : Session} (aside : before.Aside after) (id : Nat) :
    after.kernel id = before.kernel id := by
  rw [Objects.kernel, aside.kernels, ← Objects.kernel]

theorem Session.Aside.refl (session : Session) : session.Aside session :=
  ⟨rfl, rfl, fun id => ⟨(session.program id).storage?, rfl⟩⟩

namespace Action

/-- Whatever comes of an action, kernels and programs stay as they are but for
storages. -/
def StandsAside {α : Type} (action : Action α) : Prop :=
  ∀ session, Ensures (Session.Aside session) action (fun _ => Session.Aside session)
    fun _ => Session.Aside session

namespace StandsAside

variable {α β : Type}

theorem bind {action : Action α} {next : α → Action β} (first : StandsAside action)
    (second : ∀ result, StandsAside (next result)) : StandsAside (action >>= next) :=
  fun session => (first session).bind fun result => second result session

theorem get {next : Session → Action α} (after : ∀ state, StandsAside (next state)) :
    StandsAside (get >>= next) :=
  fun session => Ensures.get fun state aside =>
    (after state session).weaken (fun _ same => same ▸ aside) fun _ _ now => now

theorem pure (result : α) : StandsAside (pure result) :=
  fun _ => Ensures.pure fun _ aside => aside

theorem ofExcept (outcome : Except Error α) : StandsAside (ofExcept outcome) :=
  fun _ => ensures_ofExcept (fun _ _ _ aside => aside) fun _ _ _ aside => aside

theorem checkAlive (program : Nat) : StandsAside (checkAlive program) := by
  refine get fun state => ?_
  split
  · exact pure ()
  · exact fun _ _ aside => aside

theorem report (record : LogRecord) : StandsAside (report record) :=
  fun _ => Ensures.modify fun _ aside => ⟨aside.kernels, aside.compiled, aside.program⟩

theorem printLine (line : String) : StandsAside (printLine line) :=
  fun _ => Ensures.modify fun _ aside => ⟨aside.kernels, aside.compiled, aside.program⟩

theorem addStorage (storage : Storage) : StandsAside (addStorage storage) :=
  fun _ _ aside => ⟨aside.kernels, aside.compiled, aside.program⟩

theorem setStorage (id : Nat) (storage : Storage) : StandsAside (setStorage id storage) :=
  fun _ => Ensures.modify fun _ aside => ⟨aside.kernels, aside.compiled, aside.program⟩

/-- A storage that comes into being is kept for the program. -/
theorem keepStorage (program id : Nat) :
    StandsAside (modifyProgram program fun entry => { entry with storage? := some id }) := by
  intro session
  apply Ensures.modify
  intro state aside
  refine ⟨aside.kernels, aside.compiled, fun other => ?_⟩
  obtain ⟨storage?, same⟩ := aside.program other
  simp only [Session.program, Array.getElem?_modify] at same ⊢
  split
  · cases held : state.programs[other]? with
    | none =>
        rw [held] at same
        exact ⟨storage?, same⟩
    | some entry =>
        rw [held] at same
        refine ⟨some id, ?_⟩
        simp only [Option.getD_some, Option.map_some] at same ⊢
        rw [same]
  · exact ⟨storage?, same⟩

theorem storageOf (program : Nat) : StandsAside (storageOf program) := by
  refine (checkAlive program).bind fun _ => get fun state => ?_
  dsimp only
  split
  · exact pure _
  · split
    · exact (ofExcept _).bind fun storage => (addStorage storage).bind fun id =>
        (keepStorage program id).bind fun _ => (report _).bind fun _ => pure id
    · exact fun _ _ aside => aside

theorem storageFor (program : Nat) (ir : KernelIR) : StandsAside (storageFor program ir) := by
  refine get fun state => ?_
  dsimp only
  split
  · exact addStorage .empty
  · exact storageOf program

theorem forM {items : List α} {action : α → Action Unit}
    (round : ∀ item, StandsAside (action item)) : StandsAside (items.forM action) :=
  fun session => Ensures.forM items fun item _ => round item session

/-- What is executed changes storages and what was printed. -/
theorem execute (ir : KernelIR) (storage : Nat) (args : List HostValue) :
    StandsAside (execute ir storage args) := by
  refine get fun state => ?_
  dsimp only
  refine (setStorage storage _).bind fun _ => ?_
  refine (forM printLine).bind fun _ => ?_
  exact ofExcept _

end StandsAside

end Action

/-- A call of a kernel is counted, and the kernel is invoked. -/
def Session.invoked (session : Session) (kernel : Nat) : Session :=
  Session.changed
    { session with
      programs := session.programs.modify (session.kernel kernel).program fun program =>
        { program with calls := program.calls.count (session.kernel kernel).name } }
    kernel fun entry => { entry with state := .invoked }

namespace Action

theorem compiledTo_aside (id : Nat) : StandsAside (compiledTo id) := by
  refine StandsAside.get fun state => ?_
  split
  · exact .pure _
  · exact fun _ _ aside => aside

/-- A call attempts to compile the kernel.  It is counted if all that follows
succeeds, and leaves programs and kernels as the attempt has left them if not. -/
theorem call_ensures (session : Session) (kernel : Nat) (args : List HostValue) :
    Ensures (· = session) (call kernel args)
      (fun _ now => ∃ id middle aside, (compile kernel).run.run session = (.ok id, middle) ∧
        middle.Aside aside ∧ now = aside.invoked kernel)
      fun error now => (compile kernel).run.run session = (.error error, now) ∨
        ∃ id middle, (compile kernel).run.run session = (.ok id, middle) ∧ middle.Aside now := by
  rintro state rfl
  rw [call, run_run_bind]
  generalize (compile kernel).run.run state = ended
  rcases ended with ⟨error | id, middle⟩
  · exact .inl rfl
  dsimp only
  have rest : Ensures (Session.Aside middle)
      (do
        let compiled ← compiledTo id
        let entry := (← get).kernel kernel
        let storage ← storageFor entry.program compiled.ir
        execute compiled.ir storage args
        modifyProgram entry.program fun program =>
          { program with calls := program.calls.count entry.name }
        setState kernel .invoked)
      (fun _ now => ∃ aside, middle.Aside aside ∧ now = aside.invoked kernel)
      fun _ => Session.Aside middle := by
    refine (compiledTo_aside id middle).bind fun compiled => Ensures.get fun state aside => ?_
    rw [aside.kernel]
    have performed := ((StandsAside.storageFor (middle.kernel kernel).program compiled.ir).bind
      fun storage => StandsAside.execute compiled.ir storage args) middle
    have invoked : Ensures (Session.Aside middle)
        (do
          modifyProgram (middle.kernel kernel).program fun program =>
            { program with calls := program.calls.count (middle.kernel kernel).name }
          setState kernel .invoked)
        (fun _ now => ∃ aside, middle.Aside aside ∧ now = aside.invoked kernel)
        fun _ => Session.Aside middle := by
      intro now aside
      rw [← aside.kernel]
      exact ⟨now, aside, rfl⟩
    have whole := performed.bind fun _ => invoked
    rw [bind_assoc] at whole
    exact whole.weaken (fun _ same => same ▸ aside) fun _ _ holds => holds
  have succeeds := rest.weaken (fun _ aside => aside) fun _ now holds =>
    (⟨id, middle, holds.choose, rfl, holds.choose_spec⟩ : ∃ number left aside,
      ((.ok id, middle) : Except Error Nat × Session) = (.ok number, left) ∧
        left.Aside aside ∧ now = aside.invoked kernel)
  exact succeeds.failing (fun _ now aside => .inr ⟨id, middle, rfl, aside⟩) middle (.refl middle)

end Action

end FieldKernel
