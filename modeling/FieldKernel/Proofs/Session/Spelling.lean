import FieldKernel.Proofs.Session.Compiling

/-!
# Sessions without names

The target of a program can be set by its name.  A session in which known names
are replaced by the targets that they mean differs in nothing but these
settings.  Most of what is done in the one has the same outcome in the other,
and the sessions that are left behind differ in the same way.
-/

namespace FieldKernel

/-- A known name replaced by the target that it names. -/
def ArchSetting.resolved (setting : ArchSetting) : ArchSetting :=
  match setting.arch? with
  | some arch => .member arch
  | none => setting

namespace ArchSetting

@[simp] theorem resolved_member (arch : Arch) : (member arch).resolved = .member arch :=
  rfl

theorem resolved_of_arch? {setting : ArchSetting} {arch : Arch}
    (known : setting.arch? = some arch) : setting.resolved = .member arch := by
  rw [resolved, known]

@[simp] theorem arch?_resolved (setting : ArchSetting) :
    setting.resolved.arch? = setting.arch? := by
  unfold resolved
  split
  · next arch known => rw [known, arch?]
  · rfl

/-- Only known names are replaced. -/
theorem resolved_eq_or (setting : ArchSetting) :
    setting.resolved = setting ∨
      ∃ name arch, setting = .named name ∧ setting.arch? = some arch := by
  cases setting with
  | member arch => exact .inl rfl
  | named name =>
      cases known : (named name).arch? with
      | none => exact .inl (by rw [resolved, known])
      | some arch => exact .inr ⟨name, arch, rfl, rfl⟩

end ArchSetting

/-- A program whose target is no known name. -/
def Program.resolved (entry : Program) : Program :=
  { entry with config := { entry.config with target := entry.config.target.resolved } }

@[simp] theorem Program.tree_resolved (entry : Program) : entry.resolved.tree = entry.tree :=
  rfl

@[simp] theorem Program.storage?_resolved (entry : Program) :
    entry.resolved.storage? = entry.storage? :=
  rfl

@[simp] theorem Program.alive_resolved (entry : Program) : entry.resolved.alive = entry.alive :=
  rfl

/-- A session in which no program's target is a known name. -/
def Session.resolved (session : Session) : Session :=
  { session with programs := session.programs.map Program.resolved }

theorem Action.fingerprint_resolved (config : CompileConfig) :
    fingerprint { config with target := config.target.resolved } = fingerprint config := by
  rcases config.target.resolved_eq_or with same | ⟨name, arch, _, known⟩
  · rw [same]
  · have resolved : config.target.resolved.arch? = some arch :=
      config.target.arch?_resolved.trans known
    simp only [fingerprint, CompileConfig.fingerprint?, known, resolved]

namespace Session

variable (session : Session)

@[simp] theorem toObjects_resolved : session.resolved.toObjects = session.toObjects :=
  rfl

@[simp] theorem tree_resolved (id : Nat) : session.resolved.tree id = session.tree id :=
  rfl

@[simp] theorem node_resolved (reference : NodeRef) :
    session.resolved.node reference = session.node reference :=
  rfl

theorem program_resolved (id : Nat) :
    session.resolved.program id = (session.program id).resolved := by
  rw [program, program, resolved, Array.getElem?_map]
  cases session.programs[id]? with
  | none => rfl
  | some entry => rfl

/-- Replacing names goes along with changing a program. -/
theorem resolved_modify (id : Nat) {change other : Program → Program}
    (along : ∀ entry, (change entry).resolved = other entry.resolved) :
    Session.resolved { session with programs := session.programs.modify id change } =
      { session.resolved with programs := session.resolved.programs.modify id other } := by
  have programs : (session.programs.modify id change).map Program.resolved =
      (session.programs.map Program.resolved).modify id other := by
    apply Array.ext_getElem?
    intro place
    simp only [Array.getElem?_map, Array.getElem?_modify]
    split
    · cases session.programs[place]? with
      | none => rfl
      | some entry => exact congrArg some (along entry)
    · rfl
  rw [resolved, resolved, programs]

theorem resolved_counted (program : Nat) (hit : Bool) :
    (session.counted program hit).resolved = session.resolved.counted program hit :=
  session.resolved_modify program fun _ => by cases hit <;> rfl

end Session

namespace Action

variable {α β : Type} {session : Session}

/-- What an action does in a session another one does if known names are replaced. -/
def Mirrored (session : Session) (action other : Action α) : Prop :=
  other.run.run session.resolved =
    ((action.run.run session).1, (action.run.run session).2.resolved)

namespace Mirrored

theorem pure (result : α) : Mirrored session (pure result) (pure result) :=
  rfl

theorem throw (error : Error) : Mirrored session (throw error : Action α) (throw error) :=
  rfl

theorem ofExcept (outcome : Except Error α) :
    Mirrored session (ofExcept outcome) (ofExcept outcome) :=
  rfl

theorem ask (question : Ask α) :
    Mirrored session (liftM question : Action α) (liftM question : Action α) :=
  rfl

theorem get {next other : Session → Action α}
    (after : Mirrored session (next session) (other session.resolved)) :
    Mirrored session (get >>= next) (get >>= other) :=
  after

theorem bind {action other : Action α} {next following : α → Action β}
    (first : Mirrored session action other)
    (second : ∀ result, Mirrored (action.run.run session).2 (next result) (following result)) :
    Mirrored session (action >>= next) (other >>= following) := by
  rw [Mirrored, run_run_bind, run_run_bind, first]
  have later := second
  revert later
  rcases action.run.run session with ⟨error | result, middle⟩
  · exact fun _ => rfl
  · exact fun later => later result

theorem observe {action other : Action α} (mirrored : Mirrored session action other) :
    Mirrored session (HostT.observe action) (HostT.observe other) := by
  have run (inside : Action α) (state : Session) : (HostT.observe inside).run.run state =
      (.ok (inside.run.run state).1, (inside.run.run state).2) := rfl
  rw [Mirrored, run, run, mirrored]

theorem modify {change other : Session → Session}
    (along : (change session).resolved = other session.resolved) :
    Mirrored session (modify change : Action Unit) (modify other : Action Unit) :=
  congrArg (fun after => (Except.ok (), after)) along.symm

theorem modifyProgram (id : Nat) {change other : Program → Program}
    (along : ∀ entry, (change entry).resolved = other entry.resolved) :
    Mirrored session (modifyProgram id change) (modifyProgram id other) :=
  .modify (session.resolved_modify id along)

theorem report (record : LogRecord) : Mirrored session (report record) (report record) :=
  .modify rfl

theorem modifyKernel (id : Nat) (change : Kernel → Kernel) :
    Mirrored session (modifyKernel id change) (modifyKernel id change) :=
  .modify rfl

theorem addCompiled (compiled : CompiledKernel) :
    Mirrored session (addCompiled compiled) (addCompiled compiled) :=
  rfl

theorem setState (kernel : Nat) (state : KernelState) :
    Mirrored session (setState kernel state) (setState kernel state) :=
  .modify rfl

theorem countLookup (program : Nat) (hit : Bool) :
    Mirrored session (countLookup program hit) (countLookup program hit) :=
  .modify (session.resolved_counted program hit)

theorem checkAlive (program : Nat) :
    Mirrored session (checkAlive program) (checkAlive program) := by
  refine .get ?_
  simp only [session.program_resolved, Program.alive_resolved]
  by_cases alive : (session.program program).alive
  · simp only [alive, if_true]
    exact .pure ()
  · simp only [alive]
    exact .throw _

theorem addStorage (storage : Storage) :
    Mirrored session (addStorage storage) (addStorage storage) :=
  rfl

theorem setStorage (id : Nat) (storage : Storage) :
    Mirrored session (setStorage id storage) (setStorage id storage) :=
  .modify rfl

theorem storageOf (program : Nat) :
    Mirrored session (storageOf program) (storageOf program) := by
  refine (checkAlive program).bind fun _ => .get ?_
  generalize ((Action.checkAlive program).run.run session).2 = session
  simp only [session.program_resolved, Program.storage?_resolved, Program.tree_resolved,
    Session.tree_resolved, Session.node_resolved]
  cases (session.program program).storage? with
  | some storage => exact .pure storage
  | none =>
      dsimp only
      by_cases closed : (session.tree (session.program program).tree).isSealed
      · simp only [closed, if_true]
        refine (ofExcept _).bind fun storage => (addStorage storage).bind fun id => ?_
        refine .bind (.modifyProgram program fun _ => rfl) fun _ => ?_
        exact (report _).bind fun _ => .pure id
      · simp only [closed]
        exact .throw _

theorem compiledTo (id : Nat) : Mirrored session (compiledTo id) (compiledTo id) := by
  refine .get ?_
  simp only [Session.toObjects_resolved]
  cases session.compiled[id]? with
  | some compiled => exact .pure compiled
  | none => exact .throw _

theorem storageFor (program : Nat) (ir : KernelIR) :
    Mirrored session (storageFor program ir) (storageFor program ir) := by
  refine .get ?_
  simp only [session.program_resolved, Program.tree_resolved, Session.tree_resolved]
  by_cases bare : ir.leaves.isEmpty && !(session.tree (session.program program).tree).isSealed
  · simp only [bare, if_true]
    exact .addStorage .empty
  · simp only [bare]
    exact .storageOf program

theorem printLine (line : String) : Mirrored session (printLine line) (printLine line) :=
  .modify rfl

theorem forM (lines : List String) :
    Mirrored session (lines.forM Action.printLine) (lines.forM Action.printLine) := by
  induction lines generalizing session with
  | nil => exact .pure ()
  | cons line rest hypothesis =>
      exact (printLine line).bind fun _ => hypothesis

theorem execute (ir : KernelIR) (storage : Nat) (args : List HostValue) :
    Mirrored session (execute ir storage args) (execute ir storage args) :=
  .get ((setStorage storage _).bind fun _ => (forM _).bind fun _ => .ofExcept _)

theorem listCode (entry : Kernel) (config : CompileConfig) (body : List Stmt) (ir : KernelIR) :
    Mirrored session (listCode entry config body ir) (listCode entry config body ir) := by
  refine (ask _).bind fun wanted => ?_
  cases wanted with
  | false => exact .pure ()
  | true =>
      exact .get ((ask _).bind fun text => (report _).bind fun _ => (ofExcept _).bind fun _ =>
        (ask _).bind fun text => report _)

end Mirrored

end Action

/-- The target of a kernel is the only difference that it makes under which target setting it is
lowered. -/
theorem KernelIR.ofBody_eq_of_target (name : String) (target other : ArchSetting)
    (context : LoweringContext) (body : List Stmt) (slots : TypeSlots) :
    ofBody name target context body slots =
      ((ofBody name other context body slots).1.map fun ir => { ir with target := target },
        (ofBody name other context body slots).2) := by
  simp only [ofBody]
  rcases (Lower.block context body).run.run (Lowering.start slots) with ⟨error | ops, state⟩
  · rfl
  · rfl

namespace Session

variable (session : Session) (kernel : Nat)

theorem config_resolved :
    session.resolved.config kernel =
      { session.config kernel with target := (session.config kernel).target.resolved } :=
  congrArg Program.config (session.program_resolved _)

/-- A kernel is lowered to the same but for its target. -/
theorem lowered_resolved (arch : Arch) (slots : TypeSlots) :
    session.resolved.lowered kernel arch slots =
      ((session.lowered kernel arch slots).1.map fun ir =>
          { ir with target := (session.config kernel).target.resolved },
        (session.lowered kernel arch slots).2) := by
  rw [Session.lowered, config_resolved]
  exact KernelIR.ofBody_eq_of_target _ _ (session.config kernel).target _ _ _

/-- The session once the statements of a kernel are lowered. -/
def slotted (arch : Arch) : Session :=
  { session with slots := (session.lowered kernel arch session.slots).2 }

theorem resolved_slotted (arch : Arch) :
    session.resolved.slotted kernel arch = (session.slotted kernel arch).resolved := by
  rw [slotted, session.lowered_resolved]
  rfl

end Session

namespace Action

variable {session : Session} {kernel : Nat} {arch : Arch}

/-- An earlier failure is found under a name, too. -/
theorem compileFresh_mirrored {failure : Error}
    (earlier : (session.kernel kernel).failures.lookup arch = some failure) :
    Mirrored session (compileFresh kernel arch) (compileFresh kernel arch) := by
  refine .get ?_
  simp only [Session.toObjects_resolved, earlier]
  exact (Mirrored.countLookup _ _).bind fun _ => (Mirrored.setState kernel .failed).bind fun _ =>
    .throw failure

theorem noted_lowerKernel (kernel : Nat) (arch : Arch) (session : Session) :
    Noted session ((lowerKernel kernel arch).run.run session).2 := by
  have notes := lowerKernel_notes kernel arch session rfl
  revert notes
  rcases (lowerKernel kernel arch).run.run session with ⟨error | ir, after⟩
  · exact id
  · exact And.left

theorem Noted.config {after : Session} (noted : Noted session after) (kernel : Nat) :
    after.config kernel = session.config kernel := by
  obtain ⟨slots, log, rfl⟩ := noted
  rfl

section Plain

/-! If the target is no known name, nothing is different. -/

variable (plain : (session.config kernel).target.resolved = (session.config kernel).target)

include plain

theorem config_plain : session.resolved.config kernel = session.config kernel := by
  rw [session.config_resolved, plain]

theorem lowerKernel_plain :
    Mirrored session (lowerKernel kernel arch) (lowerKernel kernel arch) := by
  have run (session : Session) : (lowerKernel kernel arch).run.run session =
      (finishLowering session kernel arch).run.run (session.slotted kernel arch) := rfl
  have finish : finishLowering session.resolved kernel arch =
      finishLowering session kernel arch := by
    rw [finishLowering, Session.lowered, config_plain plain]
    rfl
  rw [Mirrored, run, run, finish, session.resolved_slotted]
  exact (Mirrored.ofExcept _).bind fun ir => (Mirrored.listCode _ _ _ ir).bind fun _ =>
    (Mirrored.ofExcept _).bind fun _ => .pure ir

theorem keep_plain (ir : KernelIR) :
    Mirrored session (keep kernel arch ir) (keep kernel arch ir) := by
  have same := congrArg CompileConfig.target (config_plain plain)
  rw [Session.config, Session.config] at same
  refine .get ?_
  dsimp only
  rw [same]
  refine (Mirrored.addCompiled _).bind fun id => (Mirrored.modifyKernel _ _).bind fun _ => ?_
  exact (Mirrored.ofExcept _).bind fun named => (Mirrored.report _).bind fun _ => .pure id

theorem fail_plain (cause : Error) :
    Mirrored session (fail kernel arch cause) (fail kernel arch cause) := by
  have same := congrArg CompileConfig.target (config_plain plain)
  rw [Session.config, Session.config] at same
  refine .get ?_
  dsimp only
  rw [same]
  refine (Mirrored.ask _).bind fun message => (Mirrored.ofExcept _).bind fun named => ?_
  exact (Mirrored.modifyKernel _ _).bind fun _ => (Mirrored.report _).bind fun _ => .pure _

theorem compileFresh_plain :
    Mirrored session (compileFresh kernel arch) (compileFresh kernel arch) := by
  cases earlier : (session.kernel kernel).failures.lookup arch with
  | some failure => exact compileFresh_mirrored earlier
  | none =>
      have config : (session.counted (session.kernel kernel).program false).config kernel =
          session.config kernel := session.config_counted _ _ _
      refine .get ?_
      simp only [Session.toObjects_resolved, earlier]
      refine (Mirrored.countLookup _ _).bind fun _ => ?_
      refine (Mirrored.observe (lowerKernel_plain (config ▸ plain))).bind fun outcome => ?_
      have noted := noted_lowerKernel kernel arch
        (session.counted (session.kernel kernel).program false)
      have still := (noted.config kernel).trans config ▸ plain
      cases outcome with
      | ok ir => exact keep_plain still ir
      | error error =>
          dsimp only
          split
          · exact (fail_plain still error).bind fun failure => .throw failure
          · exact .throw error

end Plain

/-- An attempt for a target goes by what the kernel is compiled to. -/
def compileFor (session : Session) (kernel : Nat) (arch : Arch) : Action Nat :=
  match (session.kernel kernel).compiled? with
  | some compiled =>
    if session.compiled[compiled]?.any (·.fingerprint = arch) then do
      countLookup (session.kernel kernel).program true
      if (session.kernel kernel).state = .failed then
        setState kernel .compiled
      return compiled
    else compileFresh kernel arch
  | none => compileFresh kernel arch

theorem compile_run (session : Session) (kernel : Nat) :
    (compile kernel).run.run session =
      if (session.program (session.kernel kernel).program).alive then
        if (session.kernel kernel).state = .defining then
          (.error (.kernelOpen (session.kernel kernel).name), session)
        else
          match fingerprint (session.config kernel) with
          | .error error => (.error error, session)
          | .ok arch => (compileFor session kernel arch).run.run session
      else (.error (.program .tornDown), session) := by
  change (checkAlive (session.kernel kernel).program >>= _ : Action Nat).run.run session = _
  rw [run_run_bind, HostT.run_checkAlive]
  by_cases alive : (session.program (session.kernel kernel).program).alive
  · simp only [alive, if_true]
    by_cases unfinished : (session.kernel kernel).state = .defining
    · simp only [unfinished, if_true]
      rfl
    · simp only [unfinished, if_false]
      change (ofExcept (fingerprint (session.config kernel)) >>= _ : Action Nat).run.run session = _
      rw [run_run_bind]
      cases fingerprint (session.config kernel) with
      | error error => rfl
      | ok arch => rfl
  · simp only [alive]
    rfl

theorem compileFor_fresh (vacant : session.holds kernel arch = false) :
    compileFor session kernel arch = compileFresh kernel arch := by
  rw [compileFor]
  cases held : (session.kernel kernel).compiled? with
  | none => rfl
  | some id =>
      rw [Session.holds, held, Option.any_some] at vacant
      simp only [vacant, Bool.false_eq_true, if_false]

/-- What the kernel is compiled to is found under a name, too. -/
theorem compileFor_mirrored (matching : session.holds kernel arch) :
    Mirrored session (compileFor session kernel arch) (compileFor session kernel arch) := by
  rw [compileFor]
  cases held : (session.kernel kernel).compiled? with
  | none =>
      rw [Session.holds, held] at matching
      cases matching
  | some id =>
      rw [Session.holds, held, Option.any_some] at matching
      simp only [matching, if_true]
      refine (Mirrored.countLookup _ _).bind fun _ => ?_
      by_cases spoiled : (session.kernel kernel).state = .failed
      · simp only [spoiled, if_true]
        exact (Mirrored.setState kernel .compiled).bind fun _ => .pure id
      · simp only [spoiled, if_false]
        exact .pure id

theorem call_mirrored (args : List HostValue)
    (mirrored : Mirrored session (compile kernel) (compile kernel)) :
    Mirrored session (call kernel args) (call kernel args) := by
  refine mirrored.bind fun id => (Mirrored.compiledTo id).bind fun compiled => .get ?_
  refine (Mirrored.storageFor _ _).bind fun storage => (Mirrored.execute _ storage args).bind
    fun _ => ?_
  refine .bind (.modifyProgram _ fun _ => rfl) fun _ => ?_
  exact .setState kernel .invoked

end Action

end FieldKernel
