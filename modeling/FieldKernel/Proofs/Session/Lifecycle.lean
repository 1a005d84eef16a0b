import FieldKernel.Proofs.Session.Attempts

/-!
# The lifecycle of kernels

Kernels that are defined are compiled and called in any order, for one target
or the other.  What is kept for a kernel (its state, what it was compiled to,
how often, and why it could not be) is what the attempts to compile it have come
to, and so is what a program counts.
-/

namespace FieldKernel

namespace Tally

/-- How often a name was counted. -/
def of (tally : Tally) (name : String) : Nat :=
  (List.lookup name tally).getD 0

theorem of_count (tally : Tally) (name other : String) :
    (tally.count name).of other = tally.of other + if other = name then 1 else 0 := by
  induction tally with
  | nil =>
      by_cases same : other = name
      · simp [count, of, List.lookup, same]
      · simp [count, of, List.lookup, same, beq_eq_false_iff_ne.mpr same]
  | cons entry rest hypothesis =>
      obtain ⟨key, number⟩ := entry
      rw [of, of] at hypothesis
      by_cases here : key = name
      · by_cases same : other = name
        · simp [count, of, List.lookup, here, same]
        · simp [count, of, List.lookup, here, same, beq_eq_false_iff_ne.mpr same]
      · by_cases same : other = key
        · simp [count, of, List.lookup, here, same]
        · simp [count, of, List.lookup, here, beq_eq_false_iff_ne.mpr same, hypothesis]

end Tally

/-- What is done with kernels that are defined. -/
inductive Command where
  | setTarget (arch : Arch)
  | compile (kernel : Nat)
  | call (kernel : Nat) (args : List HostValue)

namespace Command

def perform (program : Nat) : Command → Action Unit
  | setTarget arch => Action.setTarget program (.member arch)
  | compile kernel => do
    let _ ← Action.compile kernel
  | call kernel args => Action.call kernel args

/-- The kernel that a command attempts to compile. -/
def kernel? : Command → Option Nat
  | setTarget _ => none
  | compile kernel => some kernel
  | call kernel _ => some kernel

/-- A command is about one of these kernels, or about none. -/
def Among (kernels : List Nat) (command : Command) : Prop :=
  ∀ kernel, command.kernel? = some kernel → kernel ∈ kernels

/-- The kernel that a command calls. -/
def called? : Command → Option Nat
  | setTarget _ => none
  | compile _ => none
  | call kernel _ => some kernel

end Command

/-- An attempt to compile a kernel in a session. -/
structure Attempt where
  session : Session
  kernel : Nat

namespace Attempt

/-- The target that is compiled for. -/
def target (attempt : Attempt) : ArchSetting :=
  (attempt.session.program (attempt.session.kernel attempt.kernel).program).config.target

def answer (attempt : Attempt) : Except Error Nat :=
  ((Action.compile attempt.kernel).run.run attempt.session).1

/-- Whether the kernel is compiled for the target already. -/
def isHit (attempt : Attempt) : Bool :=
  attempt.target.arch?.any (attempt.session.holds attempt.kernel)

/-- Whether the kernel is compiled, to something that was not there before. -/
def compiles (attempt : Attempt) : Bool :=
  attempt.answer.toOption = some attempt.session.compiled.size

/-- Whether compiling fails for a reason of its own; a fault of the host is none. -/
def fails (attempt : Attempt) : Bool :=
  match attempt.answer with
  | .ok _ => false
  | .error error => error.isOwn

/-- Whether an attempt succeeds or fails, and is not broken off by a fault of the
host. -/
def settles (attempt : Attempt) : Bool :=
  match attempt.answer with
  | .ok _ => true
  | .error error => error.isOwn

section Answers

variable {attempt : Attempt} {id : Nat} {error : Error}

theorem settles_ok (answer : attempt.answer = .ok id) : attempt.settles = true := by
  rw [settles, answer]

theorem settles_error (answer : attempt.answer = .error error) :
    attempt.settles = error.isOwn := by
  rw [settles, answer]

theorem fails_ok (answer : attempt.answer = .ok id) : attempt.fails = false := by
  rw [fails, answer]

theorem fails_error (answer : attempt.answer = .error error) : attempt.fails = error.isOwn := by
  rw [fails, answer]

theorem compiles_ok (answer : attempt.answer = .ok id) :
    attempt.compiles = decide (id = attempt.session.compiled.size) := by
  rw [compiles, answer]
  exact decide_eq_decide.mpr Option.some_inj

theorem compiles_error (answer : attempt.answer = .error error) : attempt.compiles = false := by
  rw [compiles, answer]
  rfl

end Answers

/-- How often a kernel was compiled. -/
def compilations (past : List Attempt) (kernel : Nat) : Nat :=
  past.countP fun attempt => attempt.kernel = kernel && attempt.compiles

/-- Whether the latest attempt at a kernel that was not broken off has failed. -/
def latestFails (past : List Attempt) (kernel : Nat) : Bool :=
  (past.filter fun attempt => attempt.kernel = kernel && attempt.settles).getLast?.any fails

theorem compilations_append (past : List Attempt) (attempt : Attempt) (kernel : Nat) :
    compilations (past ++ [attempt]) kernel =
      compilations past kernel +
        if attempt.kernel = kernel && attempt.compiles then 1 else 0 := by
  rw [compilations, compilations, List.countP_append, List.countP_singleton]

theorem latestFails_append (past : List Attempt) (attempt : Attempt) (kernel : Nat) :
    latestFails (past ++ [attempt]) kernel =
      if attempt.kernel = kernel && attempt.settles then attempt.fails
      else latestFails past kernel := by
  simp only [latestFails, List.filter_append, List.filter_cons, List.filter_nil]
  split
  · rw [List.getLast?_concat]
    rfl
  · rw [List.append_nil]

end Attempt

namespace Session

/-- The session after a command, whether that succeeds or fails. -/
def obey (session : Session) (program : Nat) (command : Command) : Session :=
  ((command.perform program).run.run session).2

/-- The session after commands one after the other. -/
def obeyAll (session : Session) (program : Nat) : List Command → Session
  | [] => session
  | first :: rest => (session.obey program first).obeyAll program rest

/-- The attempts that commands make one after the other. -/
def attempts (session : Session) (program : Nat) : List Command → List Attempt
  | [] => []
  | first :: rest =>
    (first.kernel?.map fun kernel => ⟨session, kernel⟩).toList ++
      (session.obey program first).attempts program rest

/-- The kernel that a command calls with success. -/
def completed? (session : Session) (program : Nat) (command : Command) : Option Nat :=
  if ((command.perform program).run.run session).1.isOk then command.called? else none

theorem obey_compile (session : Session) (program kernel : Nat) :
    session.obey program (.compile kernel) = ((Action.compile kernel).run.run session).2 := by
  rw [obey, Command.perform, run_run_bind]
  rcases (Action.compile kernel).run.run session with ⟨error | id, after⟩ <;> rfl

@[simp] theorem completed?_setTarget (session : Session) (program : Nat) (arch : Arch) :
    session.completed? program (.setTarget arch) = none := by
  rw [completed?, Command.called?, ite_self]

@[simp] theorem completed?_compile (session : Session) (program kernel : Nat) :
    session.completed? program (.compile kernel) = none := by
  rw [completed?, Command.called?, ite_self]

theorem obeyAll_append (session : Session) (program : Nat) (history : List Command)
    (command : Command) :
    session.obeyAll program (history ++ [command]) =
      (session.obeyAll program history).obey program command := by
  induction history generalizing session with
  | nil => rfl
  | cons first rest hypothesis => exact hypothesis (session.obey program first)

theorem attempts_append (session : Session) (program : Nat) (history : List Command)
    (command : Command) :
    session.attempts program (history ++ [command]) =
      session.attempts program history ++
        (command.kernel?.map fun kernel => ⟨session.obeyAll program history, kernel⟩).toList := by
  induction history generalizing session with
  | nil => simp [attempts, obeyAll]
  | cons first rest hypothesis =>
      rw [List.cons_append, attempts, attempts, hypothesis, List.append_assoc]
      rfl

/-- A call ends with the attempt to compile the kernel, or later without success,
or it succeeds. -/
theorem obey_call (session : Session) (program kernel : Nat) (args : List HostValue) :
    (∃ error, (Action.compile kernel).run.run session =
        (.error error, session.obey program (.call kernel args)) ∧
      session.completed? program (.call kernel args) = none) ∨
    (∃ id middle, (Action.compile kernel).run.run session = (.ok id, middle) ∧
      middle.Aside (session.obey program (.call kernel args)) ∧
      session.completed? program (.call kernel args) = none) ∨
    ∃ id middle aside, (Action.compile kernel).run.run session = (.ok id, middle) ∧
      middle.Aside aside ∧ session.obey program (.call kernel args) = aside.invoked kernel ∧
      session.completed? program (.call kernel args) = some kernel := by
  have ends := Action.call_ensures session kernel args session rfl
  rw [completed?, obey, Command.perform, Command.called?]
  revert ends
  rcases (Action.call kernel args).run.run session with ⟨error | result, after⟩
  · rintro (compiled | ⟨id, middle, compiled, aside⟩)
    · exact .inl ⟨error, compiled, rfl⟩
    · exact .inr (.inl ⟨id, middle, compiled, aside, rfl⟩)
  · rintro ⟨id, middle, aside, compiled, apart, same⟩
    exact .inr (.inr ⟨id, middle, aside, compiled, apart, same, rfl⟩)

/-- What is kept for a kernel is what the attempts at it have come to.  Only for
the host's own processor can they have succeeded. -/
structure Accounted (session : Session) (program : Nat) (past : List Attempt) (kernel : Nat) :
    Prop where
  known : kernel < session.kernels.size
  owner : (session.kernel kernel).program = program
  isDefined : (session.kernel kernel).state ≠ .defining
  compiled {id : Nat} (held : (session.kernel kernel).compiled? = some id) :
    ∃ ir, session.compiled[id]? = some ⟨ir, .x86⟩ ∧ ir.target = .member .x86
  failures {arch : Arch} {error : Error}
    (earlier : (session.kernel kernel).failures.lookup arch = some error) :
    error.isOwn ∧ (arch = .x86 → (session.kernel kernel).compiled? = none)
  failed {attempt : Attempt} (member : attempt ∈ past) (same : attempt.kernel = kernel)
    {arch : Arch} (target : attempt.target = .member arch) {error : Error}
    (answer : attempt.answer = .error error) (own : error.isOwn) :
    (session.kernel kernel).failures.lookup arch = some error
  succeeded {attempt : Attempt} (member : attempt ∈ past) (same : attempt.kernel = kernel)
    {arch : Arch} (target : attempt.target = .member arch) {id : Nat}
    (answer : attempt.answer = .ok id) :
    arch = .x86 ∧ (session.kernel kernel).compiled? = some id
  count : (session.kernel kernel).compileCount = Attempt.compilations past kernel
  positive : (session.kernel kernel).compiled?.isSome ↔ 0 < (session.kernel kernel).compileCount
  latest : (session.kernel kernel).state = .failed ↔ Attempt.latestFails past kernel

section Accounted

variable {session after : Session} {program : Nat} {past : List Attempt} {kernel : Nat}

theorem Accounted.holds_iff (accounted : session.Accounted program past kernel) {arch : Arch} :
    session.holds kernel arch ↔
      arch = .x86 ∧ (session.kernel kernel).compiled?.isSome := by
  cases held : (session.kernel kernel).compiled? with
  | none => simp [holds, held]
  | some id =>
      obtain ⟨ir, found, _⟩ := accounted.compiled held
      simp [holds, held, found, eq_comm]

/-- No more is kept for the kernel than before, its state apart. -/
theorem Accounted.carried (accounted : session.Accounted program past kernel)
    (new : List Attempt) (state : KernelState)
    (size : after.kernels.size = session.kernels.size)
    (same : after.kernel kernel = { session.kernel kernel with state := state })
    (kept : ∀ (id : Nat) (compiled : CompiledKernel), session.compiled[id]? = some compiled →
      after.compiled[id]? = some compiled)
    (isDefined : state ≠ .defining)
    (failed : ∀ attempt ∈ new, attempt.kernel = kernel → ∀ arch error,
      attempt.target = .member arch → attempt.answer = .error error → error.isOwn →
      (session.kernel kernel).failures.lookup arch = some error)
    (succeeded : ∀ attempt ∈ new, attempt.kernel = kernel → attempt.compiles = false ∧
      ∀ arch id, attempt.target = .member arch → attempt.answer = .ok id →
        arch = .x86 ∧ (session.kernel kernel).compiled? = some id)
    (latest : state = .failed ↔ Attempt.latestFails (past ++ new) kernel) :
    after.Accounted program (past ++ new) kernel := by
  constructor
  case known =>
      rw [size]
      exact accounted.known
  case owner =>
      rw [same]
      exact accounted.owner
  case isDefined =>
      rw [same]
      exact isDefined
  case compiled =>
      intro id held
      rw [same] at held
      obtain ⟨ir, found, target⟩ := accounted.compiled held
      exact ⟨ir, kept _ _ found, target⟩
  case failures =>
      rw [same]
      exact accounted.failures
  case failed =>
      intro one member equal arch target error answer own
      rw [same]
      rcases List.mem_append.mp member with member | member
      · exact accounted.failed member equal target answer own
      · exact failed one member equal arch error target answer own
  case succeeded =>
      intro one member equal arch target id answer
      rw [same]
      rcases List.mem_append.mp member with member | member
      · exact accounted.succeeded member equal target answer
      · exact (succeeded one member equal).2 arch id target answer
  case count =>
      have none : Attempt.compilations new kernel = 0 := by
        refine List.countP_eq_zero.mpr fun one member counts => ?_
        rw [Bool.and_eq_true, decide_eq_true_eq] at counts
        rw [(succeeded one member counts.1).1] at counts
        exact absurd counts.2 Bool.false_ne_true
      rw [same, Attempt.compilations, List.countP_append, ← Attempt.compilations,
        ← Attempt.compilations, none, ← accounted.count]
      rfl
  case positive =>
      rw [same]
      exact accounted.positive
  case latest =>
      rw [same]
      exact latest

/-- An attempt at another kernel. -/
theorem Accounted.other (accounted : session.Accounted program past kernel)
    (size : after.kernels.size = session.kernels.size)
    (same : after.kernel kernel = session.kernel kernel)
    (kept : ∀ (id : Nat) (compiled : CompiledKernel), session.compiled[id]? = some compiled →
      after.compiled[id]? = some compiled)
    {attempt : Attempt} (different : attempt.kernel ≠ kernel) :
    after.Accounted program (past ++ [attempt]) kernel := by
  refine accounted.carried [attempt] (session.kernel kernel).state size same kept accounted.isDefined ?_ ?_ ?_
  · intro one member equal
    rw [List.mem_singleton.mp member] at equal
    exact absurd equal different
  · intro one member equal
    rw [List.mem_singleton.mp member] at equal
    exact absurd equal different
  · rw [Attempt.latestFails_append, accounted.latest]
    simp [different]

/-- No attempt is made, and the kernel fails by nothing else. -/
theorem Accounted.spared (accounted : session.Accounted program past kernel)
    {state : KernelState} (size : after.kernels.size = session.kernels.size)
    (same : after.kernel kernel = { session.kernel kernel with state := state })
    (compiled : after.compiled = session.compiled) (isDefined : state ≠ .defining)
    (latest : state = .failed ↔ Attempt.latestFails past kernel) :
    after.Accounted program past kernel := by
  have carried := accounted.carried [] state size same (fun _ _ found => compiled ▸ found) isDefined
    (by simp) (by simp) (by rwa [List.append_nil])
  rwa [List.append_nil] at carried

/-- An attempt that neither compiles the kernel nor fails for the first time. -/
theorem Accounted.restated (accounted : session.Accounted program past kernel)
    {attempt : Attempt} (about : attempt.kernel = kernel) {state : KernelState}
    (size : after.kernels.size = session.kernels.size)
    (same : after.kernel kernel = { session.kernel kernel with state := state })
    (compiled : after.compiled = session.compiled) (isDefined : state ≠ .defining)
    (failed : ∀ arch error, attempt.target = .member arch → attempt.answer = .error error →
      error.isOwn → (session.kernel kernel).failures.lookup arch = some error)
    (old : attempt.compiles = false)
    (succeeded : ∀ arch id, attempt.target = .member arch → attempt.answer = .ok id →
      arch = .x86 ∧ (session.kernel kernel).compiled? = some id)
    (latest : state = .failed ↔
      if attempt.settles then attempt.fails else Attempt.latestFails past kernel) :
    after.Accounted program (past ++ [attempt]) kernel := by
  refine accounted.carried [attempt] state size same (fun _ _ found => compiled ▸ found) isDefined
    ?_ ?_ ?_
  · intro one member _
    rw [List.mem_singleton.mp member]
    exact failed
  · intro one member _
    rw [List.mem_singleton.mp member]
    exact ⟨old, succeeded⟩
  · rw [Attempt.latestFails_append]
    simpa [about] using latest

/-- An attempt that compiles the kernel. -/
theorem Accounted.renewed (accounted : session.Accounted program past kernel)
    {attempt : Attempt} (about : attempt.kernel = kernel)
    (now : attempt.session = session) (target : attempt.target = .member .x86)
    (answer : attempt.answer = .ok session.compiled.size) {ir : KernelIR} (lowered : ir.target = .member .x86)
    (vacant : session.holds kernel .x86 = false)
    (unfailed : (session.kernel kernel).failures.lookup .x86 = none)
    (size : after.kernels.size = session.kernels.size)
    (same : after.kernel kernel = { session.kernel kernel with
      compiled? := some session.compiled.size
      compileCount := (session.kernel kernel).compileCount + 1
      state := .compiled })
    (compiled : after.compiled = session.compiled.push ⟨ir, .x86⟩) :
    after.Accounted program (past ++ [attempt]) kernel := by
  have compiles : attempt.compiles = true := by
    rw [Attempt.compiles_ok answer, now]
    exact decide_eq_true rfl
  constructor
  case known =>
      rw [size]
      exact accounted.known
  case owner =>
      rw [same]
      exact accounted.owner
  case isDefined =>
      rw [same]
      simp
  case compiled =>
      intro id held
      rw [same] at held
      cases held
      rw [compiled]
      exact ⟨ir, Array.getElem?_push_size, lowered⟩
  case failures =>
      intro arch error earlier
      rw [same] at earlier
      refine ⟨(accounted.failures earlier).1, fun native => ?_⟩
      rw [native, unfailed] at earlier
      cases earlier
  case failed =>
      intro one member equal arch targeted error answered own
      rw [same]
      rcases List.mem_append.mp member with member | member
      · exact accounted.failed member equal targeted answered own
      · rw [List.mem_singleton.mp member, answer] at answered
        cases answered
  case succeeded =>
      intro one member equal arch targeted id answered
      rw [same]
      rcases List.mem_append.mp member with member | member
      · have held := (accounted.succeeded member equal targeted answered).2
        have matching := accounted.holds_iff.mpr ⟨rfl, Option.isSome_of_eq_some held⟩
        rw [vacant] at matching
        cases matching
      · rw [List.mem_singleton.mp member] at targeted answered
        rw [target] at targeted
        rw [answer] at answered
        cases targeted
        cases answered
        exact ⟨rfl, rfl⟩
  case count =>
      rw [same, Attempt.compilations_append, about, compiles, ← accounted.count]
      simp
  case positive =>
      rw [same]
      simp
  case latest =>
      rw [same, Attempt.latestFails_append, Attempt.settles_ok answer, Attempt.fails_ok answer,
        about]
      simp

/-- An attempt that fails for the first time. -/
theorem Accounted.refused (accounted : session.Accounted program past kernel)
    {attempt : Attempt} (about : attempt.kernel = kernel) {arch : Arch}
    (target : attempt.target = .member arch) {failure : Error}
    (answer : attempt.answer = .error failure) (own : failure.isOwn)
    (vacant : session.holds kernel arch = false)
    (unfailed : (session.kernel kernel).failures.lookup arch = none)
    (size : after.kernels.size = session.kernels.size)
    (same : after.kernel kernel = { session.kernel kernel with
      failures := (arch, failure) :: (session.kernel kernel).failures
      state := .failed })
    (compiled : after.compiled = session.compiled) :
    after.Accounted program (past ++ [attempt]) kernel := by
  have found (other : Arch) :
      List.lookup other ((arch, failure) :: (session.kernel kernel).failures) =
        if other = arch then some failure else (session.kernel kernel).failures.lookup other := by
    by_cases equal : other = arch
    · simp [List.lookup, equal]
    · simp [List.lookup, equal, beq_eq_false_iff_ne.mpr equal]
  constructor
  case known =>
      rw [size]
      exact accounted.known
  case owner =>
      rw [same]
      exact accounted.owner
  case isDefined =>
      rw [same]
      simp
  case compiled =>
      rw [same, compiled]
      exact accounted.compiled
  case failures =>
      intro other error earlier
      rw [same, found] at earlier
      rw [same]
      split at earlier
      · next equal =>
        cases earlier
        refine ⟨own, fun native => ?_⟩
        by_contra held
        have matching := accounted.holds_iff.mpr
          ⟨equal.symm.trans native, Option.isSome_iff_ne_none.mpr held⟩
        rw [vacant] at matching
        cases matching
      · exact accounted.failures earlier
  case failed =>
      intro one member equal other targeted error answered ownError
      rw [same, found]
      rcases List.mem_append.mp member with member | member
      · have earlier := accounted.failed member equal targeted answered ownError
        have different : other ≠ arch := by
          rintro rfl
          rw [unfailed] at earlier
          cases earlier
        rw [if_neg different]
        exact earlier
      · rw [List.mem_singleton.mp member] at targeted answered
        rw [target] at targeted
        rw [answer] at answered
        cases targeted
        cases answered
        rw [if_pos rfl]
  case succeeded =>
      intro one member equal other targeted id answered
      rw [same]
      rcases List.mem_append.mp member with member | member
      · exact accounted.succeeded member equal targeted answered
      · rw [List.mem_singleton.mp member, answer] at answered
        cases answered
  case count =>
      rw [same, Attempt.compilations_append, Attempt.compiles_error answer, ← accounted.count]
      simp
  case positive =>
      rw [same]
      exact accounted.positive
  case latest =>
      rw [same, Attempt.latestFails_append, Attempt.settles_error answer,
        Attempt.fails_error answer, own, about]
      simp

/-- The attempt itself, for whatever it comes to. -/
theorem Accounted.attempted (accounted : session.Accounted program past kernel) {arch : Arch}
    {attempt : Attempt} (about : attempt.kernel = kernel) (now : attempt.session = session)
    (target : attempt.target = .member arch)
    (attempted : session.Attempted kernel arch attempt.answer after) :
    after.Accounted program (past ++ [attempt]) kernel := by
  generalize answered : attempt.answer = answer at attempted
  have size (change : Kernel → Kernel) :
      (session.kernels.modify kernel change).size = session.kernels.size :=
    Array.size_modify
  cases attempted with
  | @reused id matching held =>
      obtain ⟨native, _⟩ := accounted.holds_iff.mp matching
      have old : attempt.compiles = false := by
        obtain ⟨ir, found, _⟩ := accounted.compiled held
        have below := (Array.getElem?_eq_some_iff.mp found).1
        rw [Attempt.compiles_ok answered, now]
        exact decide_eq_false (by omega)
      have same := session.kernel_changed_self accounted.known fun entry =>
        { entry with state := if entry.state = .failed then .compiled else entry.state }
      refine accounted.restated about (size _) same rfl ?_ ?_ old ?_ ?_
      · split
        · simp
        · exact accounted.isDefined
      · intro other error _ failed
        rw [answered] at failed
        cases failed
      · intro other number targeted succeeded
        rw [target] at targeted
        rw [answered] at succeeded
        cases targeted
        cases succeeded
        exact ⟨native, held⟩
      · rw [Attempt.settles_ok answered, Attempt.fails_ok answered]
        split
        · simp
        · next sound => simpa using sound
  | @recalled failure vacant earlier =>
      have own := (accounted.failures earlier).1
      have same := session.kernel_changed_self accounted.known fun entry =>
        { entry with state := .failed }
      refine accounted.restated about (size _) same rfl (by simp) ?_
        (Attempt.compiles_error answered) ?_ ?_
      · intro other error targeted failed _
        rw [target] at targeted
        rw [answered] at failed
        cases targeted
        cases failed
        exact earlier
      · intro other number _ succeeded
        rw [answered] at succeeded
        cases succeeded
      · rw [Attempt.settles_error answered, Attempt.fails_error answered, own]
        simp
  | @compiled ir slots log vacant earlier native lowered =>
      subst native
      exact accounted.renewed about now target answered lowered vacant earlier (size _)
        (session.kernel_changed_self accounted.known _) rfl
  | @failed failure slots log vacant earlier own =>
      exact accounted.refused about target answered own vacant earlier (size _)
        (session.kernel_changed_self accounted.known _) rfl
  | @broken fault slots log vacant earlier foreign =>
      have same : Objects.kernel
          { session.counted (session.kernel kernel).program false with
            slots := slots, log := log }.toObjects kernel =
          { session.kernel kernel with state := (session.kernel kernel).state } := rfl
      refine accounted.restated about rfl same rfl accounted.isDefined ?_
        (Attempt.compiles_error answered) ?_ ?_
      · intro other error _ failed own
        rw [answered] at failed
        cases failed
        rw [foreign] at own
        cases own
      · intro other number _ succeeded
        rw [answered] at succeeded
        cases succeeded
      · rw [Attempt.settles_error answered, foreign]
        simpa using accounted.latest

end Accounted

/-- What a program counts is what was attempted, and what is kept for its
kernels is what the attempts at them have come to. -/
structure Accounts (session before : Session) (program : Nat) (kernels : List Nat)
    (past : List Attempt) : Prop where
  alive : (session.program program).alive
  target : ∃ arch, (session.program program).config.target = .member arch
  hits : (session.program program).hits =
    (before.program program).hits + past.countP Attempt.isHit
  misses : (session.program program).misses =
    (before.program program).misses + past.countP (!·.isHit)
  kernel {kernel : Nat} (member : kernel ∈ kernels) : session.Accounted program past kernel

section Accounts

variable {session before after : Session} {program : Nat} {kernels : List Nat}
  {past : List Attempt} {kernel : Nat}

theorem Accounts.attempted (accounts : session.Accounts before program kernels past)
    (member : kernel ∈ kernels) :
    ((Action.compile kernel).run.run session).2.Accounts before program kernels
      (past ++ [⟨session, kernel⟩]) := by
  obtain ⟨arch, target⟩ := accounts.target
  have accounted := accounts.kernel member
  have alive := accounts.alive
  rw [← accounted.owner] at target alive
  have attempted := Action.compile_attempted alive accounted.isDefined target
  have counts := attempted.program alive
  have hit : Attempt.isHit ⟨session, kernel⟩ = session.holds kernel arch := by
    rw [Attempt.isHit, Attempt.target, target]
    rfl
  rw [accounted.owner] at counts target
  constructor
  case alive =>
      rw [counts]
      split <;> exact accounts.alive
  case target =>
      rw [counts]
      exact ⟨arch, by split <;> exact target⟩
  case hits =>
      rw [counts, List.countP_append, List.countP_singleton, hit]
      split
      · simp [accounts.hits, Nat.add_assoc]
      · simpa using accounts.hits
  case misses =>
      rw [counts, List.countP_append, List.countP_singleton, hit]
      split
      · next matching => simpa [matching] using accounts.misses
      · next vacant => simp [vacant, accounts.misses, Nat.add_assoc]
  case kernel =>
      intro other memberOther
      by_cases same : other = kernel
      · subst same
        exact accounted.attempted rfl rfl
          (by rw [Attempt.target, accounted.owner, target]) attempted
      · exact (accounts.kernel memberOther).other attempted.size (attempted.other same)
          attempted.kept (Ne.symm same)

/-- Nothing about the kernels has changed, and not much about the program. -/
theorem Accounts.spared (accounts : session.Accounts before program kernels past)
    (kernel : after.kernels = session.kernels) (compiled : after.compiled = session.compiled)
    (alive : (after.program program).alive)
    (target : ∃ arch, (after.program program).config.target = .member arch)
    (hits : (after.program program).hits = (session.program program).hits)
    (misses : (after.program program).misses = (session.program program).misses) :
    after.Accounts before program kernels past := by
  constructor
  case alive => exact alive
  case target => exact target
  case hits =>
      rw [hits]
      exact accounts.hits
  case misses =>
      rw [misses]
      exact accounts.misses
  case kernel =>
      intro other member
      have accounted := accounts.kernel member
      have same : after.kernel other = session.kernel other := by
        rw [Objects.kernel, kernel, ← Objects.kernel]
      exact accounted.spared (congrArg Array.size kernel) same compiled accounted.isDefined
        accounted.latest

theorem Accounts.aside (accounts : session.Accounts before program kernels past)
    (aside : session.Aside after) : after.Accounts before program kernels past := by
  obtain ⟨storage?, same⟩ := aside.program program
  refine accounts.spared aside.kernels aside.compiled ?_ ?_ ?_ ?_
  · rw [same]
    exact accounts.alive
  · rw [same]
    exact accounts.target
  · rw [same]
  · rw [same]

theorem Accounts.targeted (accounts : session.Accounts before program kernels past) (arch : Arch) :
    (session.obey program (.setTarget arch)).Accounts before program kernels past := by
  have same := session.program_modified_self accounts.alive fun entry =>
    { entry with config := { entry.config with target := .member arch } }
  have obeyed : (session.obey program (.setTarget arch)).program program =
      { session.program program with
        config := { (session.program program).config with target := .member arch } } := same
  refine accounts.spared rfl rfl ?_ ?_ ?_ ?_
  · rw [obeyed]
    exact accounts.alive
  · rw [obeyed]
    exact ⟨arch, rfl⟩
  · rw [obeyed]
  · rw [obeyed]

theorem program_invoked (session : Session) (kernel : Nat)
    (alive : (session.program (session.kernel kernel).program).alive) :
    (session.invoked kernel).program (session.kernel kernel).program =
      { session.program (session.kernel kernel).program with
        calls := (session.program (session.kernel kernel).program).calls.count
          (session.kernel kernel).name } :=
  session.program_modified_self alive _

theorem Accounts.invoked (accounts : session.Accounts before program kernels past)
    (member : kernel ∈ kernels) (sound : Attempt.latestFails past kernel = false) :
    (session.invoked kernel).Accounts before program kernels past := by
  have accounted := accounts.kernel member
  have alive := accounts.alive
  rw [← accounted.owner] at alive
  have same := session.program_invoked kernel alive
  rw [accounted.owner] at same
  constructor
  case alive =>
      rw [same]
      exact accounts.alive
  case target =>
      rw [same]
      exact accounts.target
  case hits =>
      rw [same]
      exact accounts.hits
  case misses =>
      rw [same]
      exact accounts.misses
  case kernel =>
      intro other memberOther
      have accountedOther := accounts.kernel memberOther
      by_cases equal : other = kernel
      · subst equal
        exact accounted.spared Array.size_modify (kernel_changed_self _ accounted.known _) rfl
          (by simp) (by simp [sound])
      · exact accountedOther.spared Array.size_modify (kernel_changed_of_ne _ equal _) rfl
          accountedOther.isDefined accountedOther.latest

theorem Accounts.obeyed (accounts : session.Accounts before program kernels past)
    {command : Command} (among : command.Among kernels) :
    (session.obey program command).Accounts before program kernels
      (past ++ (command.kernel?.map fun kernel => ⟨session, kernel⟩).toList) := by
  cases command with
  | setTarget arch =>
      rw [Command.kernel?, Option.map_none, Option.toList_none, List.append_nil]
      exact accounts.targeted arch
  | compile kernel =>
      have attempted := accounts.attempted (among kernel rfl)
      rw [obey_compile]
      exact attempted
  | call kernel args =>
      have attempted := accounts.attempted (among kernel rfl)
      rcases session.obey_call program kernel args with ⟨error, compiled, _⟩ |
        ⟨id, middle, compiled, apart, _⟩ | ⟨id, middle, aside, compiled, apart, same, _⟩
      · rw [compiled] at attempted
        exact attempted
      · rw [compiled] at attempted
        exact attempted.aside apart
      · have answer : Attempt.answer ⟨session, kernel⟩ = .ok id := congrArg Prod.fst compiled
        rw [compiled] at attempted
        rw [same]
        refine (attempted.aside apart).invoked (among kernel rfl) ?_
        rw [Attempt.latestFails_append, Attempt.settles_ok answer, Attempt.fails_ok answer]
        simp

end Accounts

/-- Kernels of a program that goes on are defined, and nothing has been done with
them yet. -/
structure Defines (session : Session) (program : Nat) (kernels : List Nat) : Prop where
  alive : (session.program program).alive
  target : ∃ arch, (session.program program).config.target = .member arch
  kernel {kernel : Nat} (member : kernel ∈ kernels) :
    (session.kernel kernel).program = program ∧ (session.kernel kernel).state = .defined ∧
      (session.kernel kernel).compileCount = 0 ∧ (session.kernel kernel).compiled? = none ∧
      (session.kernel kernel).failures = []

section Histories

variable {session : Session} {program : Nat} {kernels : List Nat}

theorem Defines.accounts (defines : session.Defines program kernels) :
    session.Accounts session program kernels [] := by
  refine ⟨defines.alive, defines.target, rfl, rfl, fun {kernel} member => ?_⟩
  obtain ⟨owner, state, count, compiled, failures⟩ := defines.kernel member
  have known : kernel < session.kernels.size := by
    by_contra outside
    rw [Objects.kernel, Array.getElem?_eq_none (by omega)] at state
    cases state
  constructor
  case known => exact known
  case owner => exact owner
  case isDefined => simp [state]
  case compiled => simp [compiled]
  case failures => simp [failures]
  case failed => simp
  case succeeded => simp
  case count => exact count
  case positive => simp [compiled, count]
  case latest => simp [state, Attempt.latestFails]

theorem Defines.accounts_obeyAll (defines : session.Defines program kernels)
    (history : List Command) (among : ∀ command ∈ history, command.Among kernels) :
    (session.obeyAll program history).Accounts session program kernels
      (session.attempts program history) := by
  induction history using List.reverseRecOn with
  | nil => exact defines.accounts
  | append_singleton history command hypothesis =>
      rw [obeyAll_append, attempts_append]
      apply Accounts.obeyed
      · exact hypothesis fun one member => among one (List.mem_append_left _ member)
      · exact among command (List.mem_append_right _ (List.mem_singleton_self _))

end Histories

/-- What holds for a kernel after attempts, and what the next command does. -/
structure Lifecycle (before now : Session) (program : Nat) (kernels : List Nat)
    (past : List Attempt) (kernel : Nat) : Prop where
  /-- The answer of an attempt fits the target. -/
  matching : ∀ id after, (Action.compile kernel).run.run now = (.ok id, after) →
    ∃ compiled, after.compiled[id]? = some compiled ∧
      (now.program program).config.target = .member compiled.fingerprint ∧
      compiled.ir.target = .member compiled.fingerprint
  /-- What has failed for the target fails in the same way, without lowering. -/
  recalled : ∀ attempt ∈ past, attempt.kernel = kernel →
    attempt.target = (now.program program).config.target →
    ∀ error, attempt.answer = .error error → error.isOwn →
      (Action.compile kernel).run.run now =
          (.error error, (now.counted program false).changed kernel fun entry =>
            { entry with state := .failed }) ∧
        ∀ args, (Action.call kernel args).run.run now =
          (.error error, (now.counted program false).changed kernel fun entry =>
            { entry with state := .failed })
  /-- What has succeeded for the target is used again. -/
  reused : ∀ attempt ∈ past, attempt.kernel = kernel →
    attempt.target = (now.program program).config.target →
    ∀ id, attempt.answer = .ok id →
      (Action.compile kernel).run.run now =
        (.ok id, (now.counted program true).changed kernel fun entry =>
          { entry with state := if entry.state = .failed then .compiled else entry.state })
  count : (now.kernel kernel).compileCount = Attempt.compilations past kernel
  compiled : (now.kernel kernel).compiled?.isSome ↔ 0 < (now.kernel kernel).compileCount
  hits : (now.program program).hits =
    (before.program program).hits + past.countP Attempt.isHit
  misses : (now.program program).misses =
    (before.program program).misses + past.countP (!·.isHit)
  failed : (now.kernel kernel).state = .failed ↔ Attempt.latestFails past kernel
  invoked : ∀ command : Command, command.Among kernels →
    if now.completed? program command = some kernel
    then ((now.obey program command).kernel kernel).state = .invoked
    else ((now.obey program command).kernel kernel).state = .invoked →
      (now.kernel kernel).state = .invoked
  calls : ∀ command : Command, command.Among kernels → ∀ name,
    ((now.obey program command).program program).calls.of name =
      (now.program program).calls.of name +
        if (now.completed? program command).any fun called => (now.kernel called).name = name
        then 1 else 0

section Lifecycles

variable {now before : Session} {program : Nat} {kernels : List Nat} {past : List Attempt}
  {kernel : Nat}

theorem Accounts.compile_attempted (accounts : now.Accounts before program kernels past)
    (member : kernel ∈ kernels) {arch : Arch}
    (target : (now.program program).config.target = .member arch) :
    now.Attempted kernel arch ((Action.compile kernel).run.run now).1
      ((Action.compile kernel).run.run now).2 := by
  have accounted := accounts.kernel member
  have alive := accounts.alive
  rw [← accounted.owner] at alive target
  exact Action.compile_attempted alive accounted.isDefined target

theorem Accounts.matching (accounts : now.Accounts before program kernels past)
    (member : kernel ∈ kernels) {id : Nat} {after : Session}
    (ends : (Action.compile kernel).run.run now = (.ok id, after)) :
    ∃ compiled, after.compiled[id]? = some compiled ∧
      (now.program program).config.target = .member compiled.fingerprint ∧
      compiled.ir.target = .member compiled.fingerprint := by
  obtain ⟨arch, target⟩ := accounts.target
  have attempted := (accounts.attempted member).kernel member
  have owner := (accounts.kernel member).owner
  rw [ends] at attempted
  have answer : Attempt.answer ⟨now, kernel⟩ = .ok id := congrArg Prod.fst ends
  have aimed : Attempt.target ⟨now, kernel⟩ = .member arch := by
    rw [Attempt.target, owner, target]
  obtain ⟨native, held⟩ := attempted.succeeded
    (List.mem_append_right past (List.mem_singleton_self _)) rfl aimed answer
  obtain ⟨ir, found, lowered⟩ := attempted.compiled held
  exact ⟨⟨ir, .x86⟩, found, by rw [target, native], lowered⟩

theorem Accounts.recalled (accounts : now.Accounts before program kernels past)
    (member : kernel ∈ kernels) {attempt : Attempt} (earlier : attempt ∈ past)
    (about : attempt.kernel = kernel)
    (target : attempt.target = (now.program program).config.target) {error : Error}
    (answer : attempt.answer = .error error) (own : error.isOwn) :
    (Action.compile kernel).run.run now =
      (.error error, (now.counted program false).changed kernel fun entry =>
        { entry with state := .failed }) := by
  obtain ⟨arch, same⟩ := accounts.target
  have accounted := accounts.kernel member
  have failed := accounted.failed earlier about (target.trans same) answer own
  have vacant : now.holds kernel arch = false := by
    rw [Bool.eq_false_iff]
    intro matching
    obtain ⟨native, held⟩ := accounted.holds_iff.mp matching
    rw [(accounted.failures failed).2 native] at held
    cases held
  obtain ⟨fails, after⟩ := (accounts.compile_attempted member same).of_lookup vacant failed
  rw [accounted.owner] at after
  exact Prod.ext fails after

theorem Accounts.reused (accounts : now.Accounts before program kernels past)
    (member : kernel ∈ kernels) {attempt : Attempt} (earlier : attempt ∈ past)
    (about : attempt.kernel = kernel)
    (target : attempt.target = (now.program program).config.target) {id : Nat}
    (answer : attempt.answer = .ok id) :
    (Action.compile kernel).run.run now =
      (.ok id, (now.counted program true).changed kernel fun entry =>
        { entry with state := if entry.state = .failed then .compiled else entry.state }) := by
  obtain ⟨arch, same⟩ := accounts.target
  have accounted := accounts.kernel member
  obtain ⟨native, held⟩ := accounted.succeeded earlier about (target.trans same) answer
  have matching := accounted.holds_iff.mpr ⟨native, Option.isSome_of_eq_some held⟩
  obtain ⟨succeeds, after⟩ := (accounts.compile_attempted member same).of_holds matching held
  rw [accounted.owner] at after
  exact Prod.ext succeeds after

/-- What a call comes to if the attempt to compile the kernel does not succeed. -/
theorem call_of_error {args : List HostValue} {error : Error} {after : Session}
    (fails : (Action.compile kernel).run.run now = (.error error, after)) :
    (Action.call kernel args).run.run now = (.error error, after) := by
  rw [Action.call, run_run_bind, fails]

theorem Accounts.invokes (accounts : now.Accounts before program kernels past)
    (member : kernel ∈ kernels) {command : Command} (among : command.Among kernels) :
    if now.completed? program command = some kernel
    then ((now.obey program command).kernel kernel).state = .invoked
    else ((now.obey program command).kernel kernel).state = .invoked →
      (now.kernel kernel).state = .invoked := by
  have accounted := accounts.kernel member
  obtain ⟨arch, target⟩ := accounts.target
  cases command with
  | setTarget arch =>
      rw [completed?_setTarget, if_neg (by simp)]
      exact fun invoked => invoked
  | compile other =>
      have attempted := accounts.compile_attempted (among other rfl) target
      have known := (accounts.kernel (among other rfl)).known
      rw [completed?_compile, if_neg (by simp), obey_compile]
      exact attempted.uninvoked known
  | call other args =>
      have attempted := accounts.compile_attempted (among other rfl) target
      have known := (accounts.kernel (among other rfl)).known
      rcases now.obey_call program other args with ⟨error, compiled, done⟩ |
        ⟨id, middle, compiled, apart, done⟩ | ⟨id, middle, aside, compiled, apart, same, done⟩
      · rw [done, if_neg (by simp)]
        rw [compiled] at attempted
        exact attempted.uninvoked known
      · rw [done, if_neg (by simp), apart.kernel]
        rw [compiled] at attempted
        exact attempted.uninvoked known
      · rw [done, same]
        rw [compiled] at attempted
        by_cases equal : other = kernel
        · subst equal
          have there : other < aside.kernels.size := by
            rw [apart.kernels, attempted.size]
            exact known
          rw [if_pos rfl]
          exact congrArg Kernel.state (kernel_changed_self _ there _)
        · rw [if_neg (by simpa using equal)]
          intro invoked
          have untouched : (aside.invoked other).kernel kernel = aside.kernel kernel :=
            kernel_changed_of_ne _ (Ne.symm equal) _
          rw [untouched, apart.kernel] at invoked
          exact attempted.uninvoked known invoked

theorem Accounts.counts (accounts : now.Accounts before program kernels past)
    {command : Command} (among : command.Among kernels) (name : String) :
    ((now.obey program command).program program).calls.of name =
      (now.program program).calls.of name +
        if (now.completed? program command).any fun called => (now.kernel called).name = name
        then 1 else 0 := by
  obtain ⟨arch, target⟩ := accounts.target
  -- An attempt counts look-ups and no calls.
  have uncounted {other : Nat} (member : other ∈ kernels) {answer : Except Error Nat}
      {middle : Session} (compiled : (Action.compile other).run.run now = (answer, middle)) :
      (middle.program program).calls = (now.program program).calls := by
    have attempted := accounts.compile_attempted member target
    have alive := accounts.alive
    have owner := (accounts.kernel member).owner
    rw [← owner] at alive
    have counted := attempted.program alive
    rw [compiled, owner] at counted
    rw [counted]
    split <;> rfl
  cases command with
  | setTarget arch =>
      have same := congrArg Program.calls (now.program_modified_self accounts.alive fun entry =>
        { entry with config := { entry.config with target := .member arch } })
      rw [completed?_setTarget]
      exact congrArg (Tally.of · name) same
  | compile other =>
      rw [completed?_compile, obey_compile]
      rcases compiled : (Action.compile other).run.run now with ⟨answer, middle⟩
      rw [uncounted (among other rfl) compiled]
      rfl
  | call other args =>
      have member := among other rfl
      rcases now.obey_call program other args with ⟨error, compiled, done⟩ |
        ⟨id, middle, compiled, apart, done⟩ | ⟨id, middle, aside, compiled, apart, same, done⟩
      · rw [done, uncounted member compiled]
        rfl
      · obtain ⟨storage?, stored⟩ := apart.program program
        rw [done, stored]
        exact congrArg (Tally.of · name) (uncounted member compiled)
      · obtain ⟨storage?, stored⟩ := apart.program program
        have attempted := accounts.compile_attempted member target
        have accounted := accounts.kernel member
        have named := attempted.name accounted.known
        have owner := ((accounts.attempted member).kernel member).owner
        rw [compiled, ← apart.kernel] at named owner
        have alive := (accounts.attempted member).alive
        rw [compiled] at alive
        have counted := aside.program_invoked other
        rw [owner, stored] at counted
        rw [done, same, counted alive, Tally.of_count, uncounted member compiled]
        simp [named, eq_comm]

/-- After any commands to kernels that are defined: what is kept for a kernel and
what its program counts is what the attempts to compile kernels have come to,
and the next attempt goes by it. -/
theorem Defines.lifecycle (defines : before.Defines program kernels) (history : List Command)
    (among : ∀ command ∈ history, command.Among kernels) (member : kernel ∈ kernels) :
    before.Lifecycle (before.obeyAll program history) program kernels
      (before.attempts program history) kernel := by
  have accounts := defines.accounts_obeyAll history among
  have accounted := accounts.kernel member
  constructor
  · exact fun id after ends => accounts.matching member ends
  · intro attempt earlier about target error answer own
    have recalled := accounts.recalled member earlier about target answer own
    exact ⟨recalled, fun args => call_of_error recalled⟩
  · exact fun attempt earlier about target id answer =>
      accounts.reused member earlier about target answer
  · exact accounted.count
  · exact accounted.positive
  · exact accounts.hits
  · exact accounts.misses
  · exact accounted.latest
  · exact fun command among => accounts.invokes member among
  · exact fun command among name => accounts.counts among name

end Lifecycles

end Session

namespace Shown

/-- A kernel is defined that prints what it is given. -/
def define (printed : HostValue) : Action Nat := do
  let program ← Action.newProgram none
  HostT.define program "show" [] fun _ => do
    let statement ← Action.newPrint printed (.text 0 "")
    Action.record ((← get).program program).builder (Record.insert (.statement statement))

/-- The session with a kernel that prints a number. -/
def session : Session :=
  ((define (.expr (.literal 0 (.int 7) .i32))).run.run .start).2

/-- It is compiled, fails for another target, is compiled again and called. -/
def history : List Command :=
  [.compile 0, .setTarget .gpu, .compile 0, .setTarget .x86, .call 0 []]

theorem session_defines : session.Defines 0 [0] := by
  constructor
  · decide +kernel
  · exact ⟨.x86, by decide +kernel⟩
  · intro kernel member
    obtain rfl := List.mem_singleton.mp member
    refine ⟨?_, ?_, ?_, ?_, List.isEmpty_iff.mp ?_⟩ <;> decide +kernel

theorem lifecycle_shown :
    session.Defines 0 [0] ∧ (∀ command ∈ history, command.Among [0]) ∧ 0 ∈ [0] ∧
      session.Lifecycle (session.obeyAll 0 history) 0 [0] (session.attempts 0 history) 0 := by
  have member : 0 ∈ [0] := List.mem_singleton_self 0
  have among : ∀ command ∈ history, command.Among [0] := by
    simp [history, Command.Among, Command.kernel?]
  exact ⟨session_defines, among, member, session_defines.lifecycle history among member⟩

/-- The session with a kernel that prints a block, which is no expression. -/
def unprintable : Session :=
  (((do define (.block (← Action.newBlock "body"))) : Action Nat).run.run .start).2

theorem unprintable_defines : unprintable.Defines 0 [0] := by
  constructor
  · decide +kernel
  · exact ⟨.x86, by decide +kernel⟩
  · intro kernel member
    obtain rfl := List.mem_singleton.mp member
    refine ⟨?_, ?_, ?_, ?_, List.isEmpty_iff.mp ?_⟩ <;> decide +kernel

/-- An attempt that a fault of the host breaks off does not make the kernel a
failed one, and the fault is not kept. -/
theorem compile_broken_off :
    unprintable.Defines 0 [0] ∧ (Attempt.answer ⟨unprintable, 0⟩).isOk = false ∧
      ((unprintable.obey 0 (.compile 0)).kernel 0).state = .defined ∧
      ((unprintable.obey 0 (.compile 0)).kernel 0).failures = [] := by
  refine ⟨unprintable_defines, ?_, ?_, List.isEmpty_iff.mp ?_⟩ <;> decide +kernel

end Shown

end FieldKernel
