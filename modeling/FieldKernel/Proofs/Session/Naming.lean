import FieldKernel.Proofs.Lowering.Listings
import FieldKernel.Proofs.Session.Lifecycle
import FieldKernel.Proofs.Session.Spelling

/-!
# Targets by name

What is kept for a target is found also if the target is set by its name, as it
is kept under the member that the name means.  But there is no reading the
member off a name, which is done when a failure is kept, when lowered code is
listed, and after a kernel is kept.  So names do what the members do until a
kernel has to be lowered, and such an attempt is broken off.
-/

namespace FieldKernel

namespace Action

/-- What it comes to if the member is to be read off a name. -/
def nameless : Error :=
  .host (.missingAttribute "str" "value")

end Action

namespace Action

variable {session : Session} {kernel : Nat} {arch : Arch}

/-- How lowering for a name ends, compared with lowering for the member. -/
inductive LowersAs (lists : Prop) (target : ArchSetting) :
    Except Error KernelIR × Session → Except Error KernelIR × Session → Prop where
  /-- Both fail before the name makes a difference. -/
  | failed {error : Error} {after : Session} :
      LowersAs lists target (.error error, after) (.error error, after.resolved)
  /-- The code is listed. -/
  | listed {after meant : Session} {log : Array LogRecord} {outcome : Except Error KernelIR} :
      lists → (∀ error, outcome = .error error → error.isOwn ∧ error.message.isOk) →
      after.resolved = { meant with log := log } →
      LowersAs lists target (.error nameless, after) (outcome, meant)
  | lowered {ir : KernelIR} {after : Session} :
      ¬ lists → ir.target = target →
      LowersAs lists target (.ok ir, after)
        (.ok { ir with target := target.resolved }, after.resolved)

/-- Listing the code of a kernel, and looking for a device. -/
theorem finishing_lowersAs (arch : Arch) (entry : Kernel) {config other : CompileConfig}
    (same : other.printIR = config.printIR) (body : List Stmt) {ir : KernelIR} {name : String}
    (named : ir.target = .named name) {meant : Arch} (known : ir.target.arch? = some meant)
    (state : Session)
    (listable : (Stmt.blockText state.rendering body).isOk → (ir.textFor state.rendering meant).isOk) :
    LowersAs (Ask.truth config.printIR state.toObjects = .ok true) ir.target
      ((do
        listCode entry config body ir
        ofExcept (checkDevice arch)
        return ir : Action KernelIR).run.run state)
      ((do
        listCode entry other body { ir with target := ir.target.resolved }
        ofExcept (checkDevice arch)
        return { ir with target := ir.target.resolved } : Action KernelIR).run.run
          state.resolved) := by
  have member : ir.target.resolved = .member meant := ArchSetting.resolved_of_arch? known
  rw [run_run_bind, run_run_bind, listCode_run, listCode_run, same]
  simp only [Session.toObjects_resolved]
  cases truth : Ask.truth config.printIR state.toObjects with
  | error error => exact .failed
  | ok wanted =>
      cases wanted with
      | false =>
          dsimp only
          rw [run_run_bind, run_run_bind, run_ofExcept, run_ofExcept]
          cases checkDevice arch with
          | error error => exact .failed
          | ok => exact .lowered (by simp) rfl
      | true =>
          dsimp only
          cases recorded : Stmt.blockText state.rendering body with
          | error fault => exact .failed
          | ok text =>
              dsimp only
              rw [member, named]
              obtain ⟨listing, written⟩ := exists_ok (listable (isOk_of_eq recorded))
              have written : KernelIR.textFor { ir with target := .member meant } state.rendering
                  meant = .ok listing := written
              simp only [unnamed, written]
              rw [run_run_bind, run_ofExcept]
              cases arch with
              | x86 => exact .listed trivial nofun rfl
              | gpu => exact .listed trivial (by rintro _ ⟨⟩; exact ⟨rfl, rfl⟩) rfl

theorem lowerKernel_named (arch : Arch) {name : String}
    (named : (session.config kernel).target = .named name) {meant : Arch}
    (known : (session.config kernel).target.arch? = some meant) :
    LowersAs (session.Lists kernel) (session.config kernel).target
      ((lowerKernel kernel arch).run.run session)
      ((lowerKernel kernel arch).run.run session.resolved) := by
  have slotted := session.resolved_slotted kernel arch
  have found := session.lowered_resolved kernel arch session.slots
  rw [Session.slotted] at slotted
  rw [run_lowerKernel, run_lowerKernel, slotted, finishLowering, finishLowering]
  change LowersAs _ _ _ ((ofExcept (session.resolved.lowered kernel arch session.slots).1 >>= _ :
    Action KernelIR).run.run _)
  rw [found, run_run_bind, run_run_bind, run_ofExcept, run_ofExcept]
  cases lowered : (session.lowered kernel arch session.slots).1 with
  | error error => exact .failed
  | ok ir =>
      have target : ir.target = (session.config kernel).target := target_of_ofBody lowered
      have printIR := congrArg CompileConfig.printIR (session.config_resolved kernel)
      have finishes := finishing_lowersAs arch (session.kernel kernel) printIR
        (session.body kernel) (target.trans named) (target.symm ▸ known)
        (session.slotted kernel arch)
        fun written => KernelIR.textFor_isOk lowered written meant
      rw [target] at finishes
      exact finishes

end Action

/-- What was lowered is kept for a kernel. -/
def Session.kept (session : Session) (kernel : Nat) (arch : Arch) (ir : KernelIR) : Session :=
  { session.changed kernel fun entry =>
      { entry with
        compiled? := some session.compiled.size
        compileCount := entry.compileCount + 1
        state := .compiled } with
    compiled := session.compiled.push ⟨ir, arch⟩ }

/-- An attempt to compile a kernel for a name is broken off, compared with the attempt for the
member, which succeeds or fails. -/
structure Session.BreaksOff (session : Session) (kernel : Nat) (arch : Arch)
    (given meant : Except Error Nat × Session) : Prop where
  answer : given.1 = .error Action.nameless
  settles {error : Error} (fails : meant.1 = .error error) : error.isOwn
  /-- Slots are filled and look-ups counted in the same way. -/
  aside : ∃ kernels compiled log,
    given.2.resolved = { meant.2 with kernels := kernels, compiled := compiled, log := log }
  /-- Nothing is kept for the kernel if its code is listed, nor a failure ever. -/
  unkept (early : meant.1.isOk = false ∨ session.Lists kernel) :
    given.2.kernels = session.kernels ∧ given.2.compiled = session.compiled
  /-- All is kept for the kernel, and with the name, if it succeeds and is not listed. -/
  kept (succeeds : meant.1.isOk) (silent : ¬ session.Lists kernel) :
    given.2.kernels = meant.2.kernels ∧ ∃ ir, meant.2.compiled = session.compiled.push ⟨ir, arch⟩ ∧
      given.2.compiled =
        session.compiled.push ⟨{ ir with target := (session.config kernel).target }, arch⟩

/-- Counting a look-up before makes no difference to that. -/
theorem Session.BreaksOff.of_counted {session : Session} {kernel program : Nat} {hit : Bool}
    {arch : Arch} {given meant : Except Error Nat × Session}
    (breaks : (session.counted program hit).BreaksOff kernel arch given meant) :
    session.BreaksOff kernel arch given meant := by
  have config : (session.counted program hit).config kernel = session.config kernel :=
    session.config_counted _ _ _
  have lists : (session.counted program hit).Lists kernel ↔ session.Lists kernel := by
    rw [Session.Lists, config]
    rfl
  obtain ⟨answer, settles, aside, unkept, kept⟩ := breaks
  rw [lists] at unkept kept
  rw [config] at kept
  exact ⟨answer, settles, aside, unkept, kept⟩

namespace Action

variable {session : Session} {kernel : Nat} {arch meant : Arch} {name : String}

/-- The message of a failure has to be written before it is kept. -/
theorem fail_run (session : Session) (kernel : Nat) (arch : Arch) (cause : Error) :
    (fail kernel arch cause).run.run session =
      match cause.message with
      | .error fault => (.error (.host fault), session)
      | .ok message =>
        ((do
          let named ← ofExcept (unnamed (session.config kernel).target)
          let failure := Error.kernelFailed (session.kernel kernel).name named cause
          modifyKernel kernel fun entry =>
            { entry with failures := (arch, failure) :: entry.failures, state := .failed }
          reportProgram ("kernel " ++ (session.kernel kernel).name ++ " failed to compile for " ++
            named.name ++ ": " ++ message)
          return failure : Action Error)).run.run session := by
  have written : (liftM (Ask.ofHost cause.message) : Action String).run.run session =
      (cause.message.mapError Error.host, session) := rfl
  rw [fail, run_run_get_bind, run_run_bind, written]
  cases cause.message with
  | error fault => rfl
  | ok message => rfl

theorem fail_named (arch : Arch) (named : (session.config kernel).target = .named name)
    {cause : Error} (written : cause.message.isOk) :
    (fail kernel arch cause).run.run session = (.error nameless, session) := by
  obtain ⟨message, written⟩ := exists_ok written
  rw [fail_run, written]
  dsimp only
  rw [run_run_bind, run_ofExcept, named]
  rfl

theorem fail_member (arch : Arch) (member : (session.config kernel).target = .member meant)
    {cause : Error} (written : cause.message.isOk) :
    ∃ failure kernels log, failure.isOwn ∧ (fail kernel arch cause).run.run session =
      (.ok failure, { session with kernels := kernels, log := log }) := by
  obtain ⟨message, written⟩ := exists_ok written
  rw [fail_run, written]
  dsimp only
  rw [run_run_bind, run_ofExcept, member]
  exact ⟨_, _, _, rfl, rfl⟩

theorem keep_named (arch : Arch) (named : (session.config kernel).target = .named name)
    (ir : KernelIR) :
    (keep kernel arch ir).run.run session =
      (.error nameless, session.kept kernel arch ir) := by
  change ((ofExcept (unnamed (session.config kernel).target) >>= _ : Action Nat).run.run
    (session.kept kernel arch ir)) = _
  rw [named]
  rfl

theorem keep_member (arch : Arch) (member : (session.config kernel).target = .member meant)
    (ir : KernelIR) :
    ∃ log, (keep kernel arch ir).run.run session =
      (.ok session.compiled.size, { session.kept kernel arch ir with log := log }) := by
  change ∃ log, ((ofExcept (unnamed (session.config kernel).target) >>= _ : Action Nat).run.run
    (session.kept kernel arch ir)) = _
  rw [member]
  exact ⟨_, rfl⟩

/-- What follows on lowering: its result is kept, or the failure, but not a fault of the host. -/
def settled (kernel : Nat) (arch : Arch) :
    Except Error KernelIR × Session → Except Error Nat × Session
  | (.ok ir, session) => (keep kernel arch ir).run.run session
  | (.error error, session) =>
    if error.isOwn then
      (do throw (← fail kernel arch error) : Action Nat).run.run session
    else (.error error, session)

theorem settled_fault {error : Error} (fault : error.isOwn = false) :
    settled kernel arch (.error error, session) = (.error error, session) := by
  simp [settled, fault]

/-- Nothing is kept of a failure whose message cannot be written. -/
theorem settled_unwritten (session : Session) {error : Error} (own : error.isOwn)
    {fault : HostFault} (unwritten : error.message = .error fault) :
    settled kernel arch (.error error, session) = (.error (.host fault), session) := by
  rw [settled, if_pos own, run_run_bind, fail_run, unwritten]

theorem settled_named (arch : Arch) (named : (session.config kernel).target = .named name)
    {error : Error} (own : error.isOwn) (written : error.message.isOk) :
    settled kernel arch (.error error, session) = (.error nameless, session) := by
  rw [settled, if_pos own, run_run_bind, fail_named arch named written]

theorem settled_member (arch : Arch) (member : (session.config kernel).target = .member meant)
    {error : Error} (own : error.isOwn) (written : error.message.isOk) :
    ∃ failure kernels log, failure.isOwn ∧ settled kernel arch (.error error, session) =
      (.error failure, { session with kernels := kernels, log := log }) := by
  obtain ⟨failure, kernels, log, isOwn, run⟩ := fail_member arch member written
  refine ⟨failure, kernels, log, isOwn, ?_⟩
  rw [settled, if_pos own, run_run_bind, run]
  rfl

/-- What has not failed before is lowered. -/
theorem compileFresh_run (session : Session)
    (first : (session.kernel kernel).failures.lookup arch = none) :
    (compileFresh kernel arch).run.run session =
      settled kernel arch ((lowerKernel kernel arch).run.run
        (session.counted (session.kernel kernel).program false)) := by
  have counted : (countLookup (session.kernel kernel).program false).run.run session =
      (.ok (), session.counted (session.kernel kernel).program false) := rfl
  have observed (state : Session) : (HostT.observe (lowerKernel kernel arch)).run.run state =
      (.ok ((lowerKernel kernel arch).run.run state).1,
        ((lowerKernel kernel arch).run.run state).2) := rfl
  rw [compileFresh, run_run_get_bind]
  simp only [first]
  rw [run_run_bind, counted]
  dsimp only
  rw [run_run_bind, observed]
  rcases (lowerKernel kernel arch).run.run _ with ⟨error | ir, middle⟩
  · cases own : error.isOwn with
    | false =>
        rw [settled_fault own]
        simp only [own]
        rfl
    | true =>
        rw [settled, if_pos own]
        simp only [own, if_true]
  · rfl

section Lowered

/-! From a session for a name the kernel was lowered, and `after` was left behind. -/

variable {after : Session} (noted : Noted session after)
  (named : (session.config kernel).target = .named name)
  (known : (session.config kernel).target.arch? = some meant)

include noted

theorem Noted.unkept : after.kernels = session.kernels ∧ after.compiled = session.compiled := by
  obtain ⟨slots, log, rfl⟩ := noted
  exact ⟨rfl, rfl⟩

include known

theorem Noted.member : (after.resolved.config kernel).target = .member meant := by
  rw [after.config_resolved, noted.config kernel]
  exact ArchSetting.resolved_of_arch? known

include named

/-- A failure cannot be kept. -/
theorem failed_breaksOff {error : Error} (own : error.isOwn) (written : error.message.isOk) :
    session.BreaksOff kernel arch (settled kernel arch (.error error, after))
      (settled kernel arch (.error error, after.resolved)) := by
  obtain ⟨failure, kernels, log, isOwn, fails⟩ :=
    settled_member arch (noted.member known) own written
  rw [settled_named arch ((noted.config kernel).symm ▸ named) own written, fails]
  refine ⟨rfl, ?_, ⟨_, _, _, rfl⟩, fun _ => noted.unkept, nofun⟩
  rintro _ ⟨⟩
  exact isOwn

omit named in
/-- Lowered code cannot be listed, and nothing is kept. -/
theorem listed_breaksOff {final : Session} {log : Array LogRecord}
    {outcome : Except Error KernelIR} (lists : session.Lists kernel)
    (own : ∀ error, outcome = .error error → error.isOwn ∧ error.message.isOk)
    (same : after.resolved = { final with log := log }) :
    session.BreaksOff kernel arch (settled kernel arch (.error nameless, after))
      (settled kernel arch (outcome, final)) := by
  have member : (final.config kernel).target = .member meant := by
    have target := noted.member known
    rwa [same] at target
  rw [settled_fault (by rfl)]
  cases outcome with
  | error error =>
      obtain ⟨failure, kernels, later, isOwn, fails⟩ :=
        settled_member arch member (own error rfl).1 (own error rfl).2
      rw [fails]
      refine ⟨rfl, ?_, ⟨_, _, _, same⟩, fun _ => noted.unkept, nofun⟩
      rintro _ ⟨⟩
      exact isOwn
  | ok ir =>
      obtain ⟨later, kept⟩ := keep_member arch member ir
      rw [settled, kept]
      exact ⟨rfl, nofun, ⟨_, _, _, same⟩, fun _ => noted.unkept,
        fun _ silent => absurd lists silent⟩

/-- What was lowered is kept, and then this cannot be reported. -/
theorem lowered_breaksOff {ir : KernelIR} (silent : ¬ session.Lists kernel)
    (same : ir.target = (session.config kernel).target) :
    session.BreaksOff kernel arch (settled kernel arch (.ok ir, after))
      (settled kernel arch
        (.ok { ir with target := (session.config kernel).target.resolved }, after.resolved)) := by
  obtain ⟨later, kept⟩ := keep_member arch (noted.member known)
    { ir with target := (session.config kernel).target.resolved }
  obtain ⟨_, compiled⟩ := noted.unkept
  rw [settled, settled, kept, keep_named arch ((noted.config kernel).symm ▸ named)]
  refine ⟨rfl, nofun, ⟨_, _, _, rfl⟩, ?_, fun _ _ =>
    ⟨rfl, { ir with target := (session.config kernel).target.resolved }, ?_, ?_⟩⟩
  · rintro (fails | lists)
    · cases fails
    · exact absurd lists silent
  · exact congrArg (Array.push · _) compiled
  · rw [← same]
    exact congrArg (Array.push · _) compiled

/-- Only a fault of the host breaks both attempts off. -/
theorem LowersAs.settled {outcome : Except Error KernelIR}
    {other : Except Error KernelIR × Session}
    (lowers : LowersAs (session.Lists kernel) (session.config kernel).target (outcome, after)
      other) :
    Action.settled kernel arch other =
        ((Action.settled kernel arch (outcome, after)).1,
          (Action.settled kernel arch (outcome, after)).2.resolved) ∨
      session.BreaksOff kernel arch (Action.settled kernel arch (outcome, after))
        (Action.settled kernel arch other) := by
  cases lowers with
  | @failed error _ =>
      cases own : error.isOwn with
      | false => exact .inl (by rw [settled_fault own, settled_fault own])
      | true =>
          cases message : error.message with
          | error fault =>
              exact .inl (by rw [settled_unwritten _ own message, settled_unwritten _ own message])
          | ok text => exact .inr (failed_breaksOff noted named known own (by rw [message]; rfl))
  | listed lists own same => exact .inr (listed_breaksOff noted known lists own same)
  | lowered silent same => exact .inr (lowered_breaksOff noted named known silent same)

end Lowered

/-- A name breaks an attempt off that has to lower, unless a fault of the host does. -/
theorem compileFresh_named (named : (session.config kernel).target = .named name)
    (known : (session.config kernel).target.arch? = some meant)
    (first : (session.kernel kernel).failures.lookup arch = none) :
    Mirrored session (compileFresh kernel arch) (compileFresh kernel arch) ∨
      session.BreaksOff kernel arch ((compileFresh kernel arch).run.run session)
        ((compileFresh kernel arch).run.run session.resolved) := by
  have config : (session.counted (session.kernel kernel).program false).config kernel =
      session.config kernel := session.config_counted _ _ _
  have run := compileFresh_run session.resolved first
  change _ = settled kernel arch ((lowerKernel kernel arch).run.run
    (session.resolved.counted (session.kernel kernel).program false)) at run
  rw [← session.resolved_counted] at run
  rw [Mirrored, compileFresh_run session first, run]
  have noted := noted_lowerKernel kernel arch
    (session.counted (session.kernel kernel).program false)
  rcases (lowerKernel_named arch (config ▸ named) (config ▸ known)).settled noted
    (config ▸ named) (config ▸ known) with same | breaks
  · exact .inl same
  · exact .inr breaks.of_counted

/-- Lowering for a name does not succeed, and no failure of its own comes of it. -/
theorem compileFresh_foreign (named : (session.config kernel).target = .named name)
    (first : (session.kernel kernel).failures.lookup arch = none) :
    ∃ error, ((compileFresh kernel arch).run.run session).1 = .error error ∧
      error.isOwn = false := by
  have noted := noted_lowerKernel kernel arch
    (session.counted (session.kernel kernel).program false)
  have config : (session.counted (session.kernel kernel).program false).config kernel =
      session.config kernel := session.config_counted _ _ _
  rw [compileFresh_run session first]
  revert noted
  rcases (lowerKernel kernel arch).run.run (session.counted (session.kernel kernel).program false)
    with ⟨error | ir, middle⟩
  · intro noted
    have still := ((noted.config kernel).trans config).symm ▸ named
    cases own : error.isOwn with
    | false => exact ⟨error, by rw [settled_fault own], own⟩
    | true =>
        cases message : error.message with
        | error fault => exact ⟨.host fault, by rw [settled_unwritten _ own message], rfl⟩
        | ok text =>
            exact ⟨nameless, by rw [settled_named arch still own (by rw [message]; rfl)], rfl⟩
  · intro noted
    have still := ((noted.config kernel).trans config).symm ▸ named
    exact ⟨nameless, by rw [settled, keep_named arch still], rfl⟩

end Action

/-- A kernel that is defined has to be lowered for a known name. -/
structure Session.Awaits (session : Session) (kernel : Nat) (arch : Arch) : Prop where
  alive : (session.program (session.kernel kernel).program).alive
  isDefined : (session.kernel kernel).state ≠ .defining
  named : ∃ name, (session.config kernel).target = .named name
  meant : (session.config kernel).target.arch? = some arch
  vacant : session.holds kernel arch = false
  first : (session.kernel kernel).failures.lookup arch = none

/-- A kernel has to be lowered for a known name, and that breaks the attempt off. -/
structure Session.Breaks (session : Session) (kernel : Nat) (arch : Arch) : Prop
    extends session.Awaits kernel arch where
  breaks : session.BreaksOff kernel arch ((Action.compile kernel).run.run session)
    ((Action.compile kernel).run.run session.resolved)

namespace Action

variable {session : Session} {kernel : Nat}

theorem compile_mirrored_or_breaks (session : Session) (kernel : Nat) :
    Mirrored session (compile kernel) (compile kernel) ∨ ∃ arch, session.Breaks kernel arch := by
  have given := compile_run session kernel
  have other := compile_run session.resolved kernel
  have living : (session.resolved.program (session.kernel kernel).program).alive =
      (session.program (session.kernel kernel).program).alive := by
    rw [session.program_resolved, Program.alive_resolved]
  rw [session.config_resolved, fingerprint_resolved, Session.toObjects_resolved, living] at other
  rw [Mirrored]
  by_cases alive : (session.program (session.kernel kernel).program).alive
  swap
  · exact .inl (by rw [given, other, if_neg alive, if_neg alive])
  rw [if_pos alive] at given other
  by_cases unfinished : (session.kernel kernel).state = .defining
  · exact .inl (by rw [given, other, if_pos unfinished, if_pos unfinished])
  rw [if_neg unfinished] at given other
  cases found : fingerprint (session.config kernel) with
  | error error =>
      rw [found] at given other
      exact .inl (by rw [given, other])
  | ok arch =>
      rw [found] at given other
      change _ = (compileFor session kernel arch).run.run session at given
      change _ = (compileFor session kernel arch).run.run session.resolved at other
      by_cases matching : session.holds kernel arch
      · left
        rw [given, other]
        exact compileFor_mirrored matching
      have vacant : session.holds kernel arch = false := Bool.eq_false_iff.mpr matching
      rw [compileFor_fresh vacant] at given other
      cases earlier : (session.kernel kernel).failures.lookup arch with
      | some failure =>
          left
          rw [given, other]
          exact compileFresh_mirrored earlier
      | none =>
          rcases (session.config kernel).target.resolved_eq_or with
            plain | ⟨name, meant, named, known⟩
          · left
            rw [given, other]
            exact compileFresh_plain plain
          · obtain rfl : meant = arch := by
              simpa only [fingerprint, CompileConfig.fingerprint?, known, Except.ok.injEq]
                using found
            rcases compileFresh_named named known earlier with mirrored | breaks
            · left
              rw [given, other]
              exact mirrored
            · right
              refine ⟨meant, ⟨alive, unfinished, ⟨name, named⟩, known, vacant, earlier⟩, ?_⟩
              rw [given, other]
              exact breaks

/-- An attempt that succeeds under the member, or fails with an error of its own, is
broken off under the name. -/
theorem breaks_of_awaits {arch : Arch} (awaits : session.Awaits kernel arch)
    (settles : ∀ error, ((compile kernel).run.run session.resolved).1 = .error error →
      error.isOwn) : session.Breaks kernel arch := by
  obtain ⟨alive, isDefined, ⟨name, named⟩, known, vacant, first⟩ := awaits
  have given := compile_run session kernel
  have found : fingerprint (session.config kernel) = .ok arch := by
    simp only [fingerprint, CompileConfig.fingerprint?, known]
  rw [if_pos alive, if_neg isDefined, found] at given
  change _ = (compileFor session kernel arch).run.run session at given
  rw [compileFor_fresh vacant] at given
  rcases compile_mirrored_or_breaks session kernel with mirrored | ⟨other, breaks⟩
  · -- Otherwise the answers would be the same, and the one under the name is no such answer.
    obtain ⟨error, fails, foreign⟩ := compileFresh_foreign named first
    rw [mirrored, given, fails] at settles
    rw [settles error rfl] at foreign
    cases foreign
  · obtain rfl : other = arch := Option.some.inj (breaks.meant.symm.trans known)
    exact breaks

end Action

/-- What is done with the kernels of a program, and with its target. -/
inductive Directive where
  | assign (target : ArchSetting)
  | compile (kernel : Nat)
  | call (kernel : Nat) (args : List HostValue)

namespace Directive

/-- Compiling answers what the kernel is compiled to. -/
def perform (program : Nat) : Directive → Action (Option CompiledKernel)
  | assign target => do
    Action.setTarget program target
    return none
  | compile kernel => do
    return some (← Action.compiledTo (← Action.compile kernel))
  | call kernel args => do
    Action.call kernel args
    return none

/-- The directive with the target that a known name means. -/
def resolved : Directive → Directive
  | assign target => assign target.resolved
  | other => other

/-- The kernel that has to be compiled. -/
def kernel? : Directive → Option Nat
  | assign _ => none
  | compile kernel => some kernel
  | call kernel _ => some kernel

theorem assign_mirrored (session : Session) (program : Nat) (target : ArchSetting) :
    Action.Mirrored session ((assign target).perform program)
      ((assign target).resolved.perform program) :=
  .bind (.modifyProgram program fun _ => rfl) fun _ => .pure none

theorem mirrored_or_breaks (session : Session) (program : Nat) (directive : Directive) :
    Action.Mirrored session (directive.perform program) (directive.resolved.perform program) ∨
      ∃ kernel arch, directive.kernel? = some kernel ∧ session.Breaks kernel arch := by
  have attempt (kernel : Nat) := Action.compile_mirrored_or_breaks session kernel
  cases directive with
  | assign target => exact .inl (assign_mirrored session program target)
  | compile kernel =>
      rcases attempt kernel with mirrored | ⟨arch, breaks⟩
      · exact .inl (mirrored.bind fun id => (Action.Mirrored.compiledTo id).bind fun _ => .pure _)
      · exact .inr ⟨kernel, arch, rfl, breaks⟩
  | call kernel args =>
      rcases attempt kernel with mirrored | ⟨arch, breaks⟩
      · exact .inl ((Action.call_mirrored args mirrored).bind fun _ => .pure none)
      · exact .inr ⟨kernel, arch, rfl, breaks⟩

end Directive

namespace Session

/-- How a directive ends, and in what session. -/
def respond (session : Session) (program : Nat) (directive : Directive) :
    Except Error (Option CompiledKernel) × Session :=
  (directive.perform program).run.run session

/-- The answers to directives one after the other, whether they succeed or fail. -/
def responses (session : Session) (program : Nat) :
    List Directive → List (Except Error (Option CompiledKernel))
  | [] => []
  | first :: rest =>
    (session.respond program first).1 :: (session.respond program first).2.responses program rest

/-- The session after directives one after the other. -/
def followed (session : Session) (program : Nat) : List Directive → Session
  | [] => session
  | first :: rest => (session.respond program first).2.followed program rest

/-- Known names do in a history what the members do that they mean: every answer is the same, and
in the end all is the same but for the targets of programs. -/
structure Indifferent (session : Session) (program : Nat) (history : List Directive) : Prop where
  responses : session.resolved.responses program (history.map .resolved) =
    session.responses program history
  followed : session.resolved.followed program (history.map .resolved) =
    (session.followed program history).resolved

theorem Indifferent.nil (session : Session) (program : Nat) : session.Indifferent program [] :=
  ⟨rfl, rfl⟩

/-- A history goes on alike after an answer that is the same. -/
theorem Indifferent.cons {session : Session} {program : Nat} {first : Directive}
    {rest : List Directive}
    (mirrored : Action.Mirrored session (first.perform program) (first.resolved.perform program))
    (later : (session.respond program first).2.Indifferent program rest) :
    session.Indifferent program (first :: rest) := by
  have same : session.resolved.respond program first.resolved =
      ((session.respond program first).1, (session.respond program first).2.resolved) := mirrored
  constructor
  · rw [List.map_cons, Session.responses, Session.responses, same, later.responses]
  · rw [List.map_cons, Session.followed, Session.followed, same, later.followed]

/-- An attempt that is broken off is all that there is to a directive. -/
theorem Breaks.respond_eq {session : Session} {program kernel : Nat} {arch : Arch}
    (breaks : session.Breaks kernel arch) {directive : Directive}
    (about : directive.kernel? = some kernel) :
    session.respond program directive =
      (.error Action.nameless, ((Action.compile kernel).run.run session).2) := by
  have fails : (Action.compile kernel).run.run session =
      (.error Action.nameless, ((Action.compile kernel).run.run session).2) :=
    Prod.ext breaks.breaks.answer rfl
  cases directive with
  | assign target => cases about
  | compile other =>
      cases about
      rw [respond, Directive.perform, run_run_bind, fails]
  | call other args =>
      cases about
      rw [respond, Directive.perform, run_run_bind, call_of_error fails]

/-- A history goes on alike up to a directive under which a kernel has to be lowered for a known
name, and the attempt is all that comes of that directive. -/
structure BrokenAt (session : Session) (program : Nat) (front : List Directive)
    (directive : Directive) (kernel : Nat) (arch : Arch) : Prop where
  about : directive.kernel? = some kernel
  alike : session.Indifferent program front
  breaks : (session.followed program front).Breaks kernel arch
  respond : (session.followed program front).respond program directive =
    (.error Action.nameless,
      ((Action.compile kernel).run.run (session.followed program front)).2)

/-- A history is indifferent, or there is a first attempt that is broken off. -/
theorem indifferent_or_brokenAt (session : Session) (program : Nat) (history : List Directive) :
    session.Indifferent program history ∨ ∃ front directive rest kernel arch,
      history = front ++ directive :: rest ∧
        session.BrokenAt program front directive kernel arch := by
  induction history generalizing session with
  | nil => exact .inl (.nil session program)
  | cons first rest hypothesis =>
      rcases first.mirrored_or_breaks session program with mirrored | ⟨kernel, arch, about, breaks⟩
      · rcases hypothesis (session.respond program first).2 with
          alike | ⟨front, directive, later, kernel, arch, rfl, about, alike, broken, respond⟩
        · exact .inl (.cons mirrored alike)
        · exact .inr ⟨first :: front, directive, later, kernel, arch, rfl, about,
            .cons mirrored alike, broken, respond⟩
      · exact .inr ⟨[], first, rest, kernel, arch, rfl, about, .nil session program, breaks,
          breaks.respond_eq about⟩

/-- Known names do what the members do that they mean, up to the first attempt that has to lower
for a name.  Wherever such an attempt would succeed under the member, or fail with an error of its
own, it is broken off. -/
theorem indifferent_or_breaks (session : Session) (program : Nat) (history : List Directive) :
    (session.Indifferent program history ∨ ∃ front directive rest kernel arch,
      history = front ++ directive :: rest ∧
        session.BrokenAt program front directive kernel arch) ∧
    ∀ front directive rest kernel arch,
      history = front ++ directive :: rest → directive.kernel? = some kernel →
      session.Indifferent program front → (session.followed program front).Awaits kernel arch →
      (∀ error, ((Action.compile kernel).run.run
        (session.followed program front).resolved).1 = .error error → error.isOwn) →
      session.BrokenAt program front directive kernel arch := by
  refine ⟨session.indifferent_or_brokenAt program history, ?_⟩
  intro front directive rest kernel arch _ about alike awaits settles
  have breaks := Action.breaks_of_awaits awaits settles
  exact ⟨about, alike, breaks, breaks.respond_eq about⟩

end Session

namespace Shown

/-- A name that is assigned before the kernel is compiled for the first time. -/
def naming (arch : Arch) : List Directive :=
  [.assign (.named arch.name), .compile 0]

/-- The name of the host's own processor breaks the first attempt off. -/
theorem naming_breaks : session.BrokenAt 0 [.assign (.named "x86_64")] (.compile 0) 0 .x86 := by
  let assigned := session.followed 0 [.assign (.named "x86_64")]
  have unfailed : (assigned.kernel 0).failures = [] := List.isEmpty_iff.mp (by decide +kernel)
  have succeeds : ((Action.compile 0).run.run assigned.resolved).1.isOk := by decide +kernel
  have awaits : assigned.Awaits 0 .x86 :=
    ⟨by decide +kernel, by decide +kernel, ⟨"x86_64", by decide +kernel⟩, by decide +kernel,
      by decide +kernel, by rw [unfailed]; rfl⟩
  refine (session.indifferent_or_breaks 0 (naming .x86)).2 _ _ [] 0 .x86 rfl rfl
    (.cons (Directive.assign_mirrored session 0 _) (.nil _ 0)) awaits fun error fails => ?_
  rw [fails] at succeeds
  cases succeeds

/-- With the name of the host's own processor compiling fails, though the kernel is compiled and
counted as such; with the member it succeeds.  With the name of a target that there is no device
for the kernel is not marked as a failed one, and the failure is not kept. -/
theorem naming_differs :
    ¬ session.Indifferent 0 (naming .x86) ∧
      (session.responses 0 (naming .x86)).map Except.isOk = [true, false] ∧
      ((session.followed 0 (naming .x86)).kernel 0).state = .compiled ∧
      ((session.followed 0 (naming .x86)).kernel 0).compileCount = 1 ∧
      ¬ session.Indifferent 0 (naming .gpu) ∧
      ((session.followed 0 (naming .gpu)).kernel 0).state = .defined ∧
      ((session.followed 0 (naming .gpu)).kernel 0).failures = [] := by
  have broken : (session.responses 0 (naming .x86)).map Except.isOk = [true, false] := by
    decide +kernel
  have unmarked : ((session.followed 0 (naming .gpu)).kernel 0).state = .defined := by
    decide +kernel
  refine ⟨fun alike => ?_, broken, ?_, ?_, fun alike => ?_, unmarked, List.isEmpty_iff.mp ?_⟩
  · have succeeds : (session.resolved.responses 0 ((naming .x86).map .resolved)).map Except.isOk =
        [true, true] := by
      decide +kernel
    rw [alike.responses, broken] at succeeds
    cases succeeds
  · decide +kernel
  · decide +kernel
  · have marked : ((session.resolved.followed 0 ((naming .gpu).map .resolved)).kernel 0).state =
        .failed := by
      decide +kernel
    rw [alike.followed, Session.toObjects_resolved, unmarked] at marked
    cases marked
  · decide +kernel

end Shown

end FieldKernel
