import FieldKernel.Proofs.Recording.Targets

/-!
# Accepted hints

A hint that is accepted is one of the loop that a builder has recorded last.
Which loop that is can be told from outside, by the calls that succeed and by the
loops that come into blocks.  A trail keeps that and the hints that were accepted,
and the schedule of every loop is what the trail says.
-/

namespace FieldKernel

namespace Schedule

variable {schedule other : Schedule}

theorem mem_entries {kind : HintKind} {said : HintValue} :
    (kind, said) ∈ schedule.entries ↔ schedule.get? kind = some said := by
  have listed : kind ∈ HintKind.all := by cases kind <;> decide
  simp only [entries, List.mem_filterMap, Option.map_eq_some_iff, Prod.mk.injEq]
  constructor
  · rintro ⟨_, _, _, found, rfl, rfl⟩
    exact found
  · intro found
    exact ⟨kind, listed, said, found, rfl, rfl⟩

theorem kinds_entries (schedule : Schedule) :
    schedule.entries.map Prod.fst =
      HintKind.all.filter fun kind => (schedule.get? kind).isSome := by
  rw [entries]
  induction HintKind.all with
  | nil => rfl
  | cons kind kinds hypothesis =>
      cases said : schedule.get? kind with
      | none => simpa [said] using hypothesis
      | some value => simpa [said] using hypothesis

/-- Each kind is there at most once, in the order of the names. -/
theorem sorted_entries (schedule : Schedule) :
    (schedule.entries.map Prod.fst).Pairwise fun one other => one.name < other.name := by
  rw [kinds_entries]
  have sorted : HintKind.all.Pairwise fun one other => one.name < other.name := by decide
  exact sorted.filter _

theorem entries_congr (same : ∀ kind, schedule.get? kind = other.get? kind) :
    schedule.entries = other.entries := by
  simp only [entries, same]

/-- Hints of different kinds can be set in any order. -/
theorem entries_set_comm {first second : HintKind} (different : first ≠ second)
    (said said' : HintValue) :
    ((schedule.set first said).set second said').entries =
      ((schedule.set second said').set first said).entries := by
  refine entries_congr fun kind => ?_
  simp only [get?_set]
  by_cases here : kind = second
  · rw [if_pos here, if_neg (here ▸ different.symm), if_pos here]
  · rw [if_neg here, if_neg here]

/-- Only the last hint of a kind counts. -/
theorem entries_set_set (kind : HintKind) (said said' : HintValue) :
    ((schedule.set kind said).set kind said').entries = (schedule.set kind said').entries := by
  refine entries_congr fun other => ?_
  simp only [get?_set]
  split <;> rfl

end Schedule

/-- What a hint says, if its value is one that can be accepted. -/
def HintKind.accepted? (kind : HintKind) (value : HostValue) : Option HintValue :=
  match kind, value with
  | .cache, .text _ name => (CacheMode.ofName? name).map .mode
  | .cache, _ => none
  | _, .int _ number => if 0 < number then some (.host value) else none
  | _, _ => none

namespace Record

variable {kind : HintKind} {value : HostValue} {said : HintValue}

theorem hintValue_of_accepted (accepted : kind.accepted? value = some said) (objects : Objects) :
    hintValue kind value objects = .ok said := by
  rw [HintKind.accepted?.eq_def] at accepted
  split at accepted
  · next id name =>
    obtain ⟨mode, named, rfl⟩ := Option.map_eq_some_iff.mp accepted
    simp only [hintValue, named]
    rfl
  · cases accepted
  · next numeric =>
    split at accepted
    · next positive =>
      cases accepted
      rw [hintValue, if_pos positive]
      · rfl
      · exact numeric
    · cases accepted
  · cases accepted

theorem hintValue_of_refused (refused : kind.accepted? value = none) (objects : Objects) :
    ∃ error, hintValue kind value objects = .error error := by
  have shown (value : HostValue) (error : String → Error) :
      ∃ fault, (do throw (error (← Ask.listing value)) : Ask HintValue) objects = .error fault := by
    change ∃ fault, (Ask.listing value objects >>= fun text => .error (error text)) =
      (Except.error fault : Except Error HintValue)
    cases Ask.listing value objects with
    | error fault => exact ⟨fault, rfl⟩
    | ok text => exact ⟨error text, rfl⟩
  rw [HintKind.accepted?.eq_def] at refused
  split at refused
  · simp only [hintValue, Option.map_eq_none_iff.mp refused]
    exact shown _ _
  · next unnamed =>
    rw [hintValue]
    · exact shown _ _
    · exact unnamed
  · next numeric =>
    split at refused
    · cases refused
    · next negative =>
      rw [hintValue, if_neg negative]
      · exact shown _ _
      · exact numeric
  · next numeric uncounted unnamed =>
    rw [hintValue]
    · exact shown _ _
    · exact numeric
    · exact uncounted
    · exact unnamed

theorem accepted_of_hintValue {objects : Objects}
    (accepted : hintValue kind value objects = .ok said) : kind.accepted? value = some said := by
  cases spoken : kind.accepted? value with
  | none =>
      obtain ⟨error, refused⟩ := hintValue_of_refused spoken objects
      rw [refused] at accepted
      cases accepted
  | some other =>
      rw [hintValue_of_accepted spoken] at accepted
      cases accepted
      rfl

end Record

namespace Recording

variable {before after : Recording}

instance (before after : Recording) (loop : Nat) : Decidable (before.Enters after loop) :=
  decidable_of_iff
    ((after.schedule? loop).isSome ∧ (before.statement loop).parent? = none ∧
      (after.statement loop).parent?.isSome)
    ⟨fun ⟨looped, free, held⟩ => ⟨looped, free, held⟩,
      fun enters => ⟨enters.looped, enters.free, enters.held⟩⟩

/-- The loop that is put into a block. -/
def entering? (before after : Recording) : Option Nat :=
  (List.range after.statements.size).find? fun loop => before.Enters after loop

theorem entering?_of_still (still : before.Still after) : before.entering? after = none :=
  List.find?_eq_none.mpr fun loop _ enters => still.unentered loop (of_decide_eq_true enters)

theorem entering?_of_enters {loop : Nat} (enters : before.Enters after loop)
    (only : ∀ {other : Nat}, before.Enters after other → other = loop) :
    before.entering? after = some loop := by
  obtain ⟨schedule, found⟩ := Option.isSome_iff_exists.mp enters.looped
  have listed : loop ∈ List.range after.statements.size :=
    List.mem_range.mpr (lt_of_schedule? found)
  cases entering : before.entering? after with
  | none => exact absurd (decide_eq_true enters) (List.find?_eq_none.mp entering loop listed)
  | some other =>
      have met := List.find?_some entering
      rw [only (of_decide_eq_true met)]

end Recording

/-- A hint that was accepted. -/
structure AcceptedHint where
  loop : Nat
  kind : HintKind
  said : HintValue

/-- What can be told of builders from outside. -/
structure Trail where
  /-- The loop that each builder has recorded last. -/
  last? : Nat → Option Nat
  /-- The hints that were accepted, the latest first. -/
  accepted : List AcceptedHint

namespace Trail

def start : Trail :=
  ⟨fun _ => none, []⟩

/-- What the last hint of a kind says that was accepted for a loop. -/
def latest? (trail : Trail) (loop : Nat) (kind : HintKind) : Option HintValue :=
  (trail.accepted.find? fun hint => hint.loop = loop ∧ hint.kind = kind).map (·.said)

/-- A loop that has come into a block is the one that its builder has recorded
last. -/
def recorded (trail : Trail) (builder : Nat) (before after : Recording) : Trail :=
  match before.entering? after with
  | some loop => { trail with last? := Function.update trail.last? builder (some loop) }
  | none => trail

/-- A hint is accepted for the loop that its builder has recorded last. -/
def hinted (trail : Trail) (builder : Nat) (kind : HintKind) (value : HostValue) : Trail :=
  match trail.last? builder, kind.accepted? value with
  | some loop, some said => { trail with accepted := ⟨loop, kind, said⟩ :: trail.accepted }
  | _, _ => trail

/-- The trail after an operation with its outcome.  What is put into a block by hand
is not recorded by a builder. -/
def performed (trail : Trail) (builder : Nat) (before : Recorder) (operation : Operation)
    (ended : Except Error HostValue × Recorder) : Trail :=
  match operation, ended.1 with
  | .enterRoot _, .ok _ => { trail with last? := Function.update trail.last? builder none }
  | .reset, .ok _ => { trail with last? := Function.update trail.last? builder none }
  | .hint kind value, .ok _ => trail.hinted builder kind value
  | .insertInto _ _, .ok _ => trail
  | _, _ => trail.recorded builder before.recording ended.2.recording

end Trail

/-- What host code does: something with a builder, or something that concerns neither
builders nor blocks. -/
inductive Workbench.Act where
  | perform (builder : Nat) (operation : Operation)
  | meanwhile (shared : Recorder)

/-- Host code does not write to a schedule by hand. -/
def Workbench.Act.plain : Act → Bool
  | .perform _ (.setHint _ _ _) => false
  | _ => true

/-- Builders that are watched. -/
structure Watched where
  bench : Workbench
  trail : Trail

namespace Watched

open Workbench (Act)

/-- Nothing has been recorded. -/
def start (shared : Recorder) : Watched :=
  ⟨⟨fun _ => .empty, { shared with recording := .empty }⟩, .start⟩

def after (watched : Watched) : Act → Watched
  | .perform builder operation =>
    let recorder := watched.bench.recorder builder
    ⟨watched.bench.after builder operation,
      watched.trail.performed builder recorder operation (operation.perform.run.run recorder)⟩
  | .meanwhile shared =>
    ⟨⟨watched.bench.builders, { shared with recording := watched.bench.shared.recording }⟩,
      watched.trail⟩

def course (watched : Watched) (acts : List Act) : Watched :=
  acts.foldl Watched.after watched

end Watched

namespace Trail

variable {trail : Trail} {before after : Recording}

theorem latest?_cons (last? : Nat → Option Nat) (hint : AcceptedHint) (accepted : List AcceptedHint)
    (loop : Nat) (kind : HintKind) :
    latest? ⟨last?, hint :: accepted⟩ loop kind =
      if hint.loop = loop ∧ hint.kind = kind then some hint.said
      else latest? ⟨last?, accepted⟩ loop kind := by
  rw [latest?, List.find?_cons]
  split
  · next here => rw [if_pos (of_decide_eq_true here)]; rfl
  · next elsewhere => rw [if_neg (of_decide_eq_false elsewhere)]; rfl

/-- The schedules of loops are what a trail says. -/
structure Explains (trail : Trail) (recording : Recording) : Prop where
  last {builder loop : Nat} (last : trail.last? builder = some loop) :
    (recording.schedule? loop).isSome
  accepted {hint : AcceptedHint} (accepted : hint ∈ trail.accepted) :
    (recording.schedule? hint.loop).isSome
  said {loop : Nat} {schedule : Schedule} (found : recording.schedule? loop = some schedule)
    (kind : HintKind) : schedule.get? kind = trail.latest? loop kind

/-- A loop that is not there has no hints that were accepted. -/
theorem Explains.latest?_of_new (explains : trail.Explains before) {loop : Nat}
    (new : before.statements.size ≤ loop) (kind : HintKind) : trail.latest? loop kind = none := by
  rw [latest?, Option.map_eq_none_iff]
  refine List.find?_eq_none.mpr fun hint member here => ?_
  obtain ⟨schedule, found⟩ := Option.isSome_iff_exists.mp (explains.accepted member)
  rw [(of_decide_eq_true here).1] at found
  exact absurd (Recording.lt_of_schedule? found) (Nat.not_lt_of_le new)

theorem Explains.unhinted (explains : trail.Explains before) (unhinted : before.Unhinted after) :
    trail.Explains after where
  last last := unhinted.continues.looped (explains.last last)
  accepted accepted := unhinted.continues.looped (explains.accepted accepted)
  said {loop schedule} found kind := by
    rcases Nat.lt_or_ge loop before.statements.size with known | new
    · exact explains.said ((unhinted.kept known).symm.trans found) kind
    · rw [unhinted.new new found, explains.latest?_of_new new]
      rfl

/-- A builder records a loop, or forgets about it. -/
theorem Explains.turns (explains : trail.Explains before) (builder : Nat) {target? : Option Nat}
    (looped : ∀ loop, target? = some loop → (before.schedule? loop).isSome) :
    Explains { trail with last? := Function.update trail.last? builder target? } before where
  last {other loop} last := by
    by_cases same : other = builder
    · rw [same] at last
      exact looped loop ((Function.update_self builder target? trail.last?).symm.trans last)
    · exact explains.last ((Function.update_of_ne same target? trail.last?).symm.trans last)
  accepted := explains.accepted
  said := explains.said

/-- A hint is accepted for a loop. -/
theorem Explains.accepts (explains : trail.Explains before) {loop : Nat}
    (looped : (before.schedule? loop).isSome) (kind : HintKind) (said : HintValue) :
    Explains { trail with accepted := ⟨loop, kind, said⟩ :: trail.accepted }
      (before.setHint loop kind said) where
  last last := (Recording.continues_setHint loop kind said).looped (explains.last last)
  accepted {hint} member := by
    refine (Recording.continues_setHint loop kind said).looped ?_
    rcases List.mem_cons.mp member with rfl | earlier
    · exact looped
    · exact explains.accepted earlier
  said {other schedule} found kind' := by
    rw [Recording.schedule?_setHint] at found
    rw [latest?_cons]
    -- A new hint hides the earlier ones of its kind for its own loop, and no others.
    by_cases here : other = loop
    · subst here
      rw [if_pos rfl] at found
      obtain ⟨schedule', found', rfl⟩ := Option.map_eq_some_iff.mp found
      rw [Schedule.get?_set, explains.said found' kind']
      by_cases same : kind' = kind
      · rw [if_pos same, if_pos ⟨rfl, same.symm⟩]
      · rw [if_neg same, if_neg fun both => same both.2.symm]
    · rw [if_neg here] at found
      rw [if_neg fun both => here both.1.symm, explains.said found kind']

end Trail

namespace Watched

open Workbench (Act)

variable {watched : Watched}

/-- What is told from outside is so inside. -/
structure Told (watched : Watched) : Prop where
  target (builder : Nat) :
    (watched.bench.builders builder).lastLoop? = watched.trail.last? builder
  explains : watched.trail.Explains watched.bench.shared.recording

theorem told_start (shared : Recorder) : Told (start shared) where
  target _ := rfl
  explains :=
    { last := nofun
      accepted := nofun
      said := fun found => absurd (Recording.lt_of_schedule? found) (Nat.not_lt_zero _) }

end Watched

namespace Trail

variable {trail : Trail} {builder : Nat} {before : Recorder} {operation : Operation}

theorem performed_of_error (error : Error) (after : Recorder) :
    trail.performed builder before operation (.error error, after) =
      trail.recorded builder before.recording after.recording := by
  cases operation <;> rfl

theorem performed_of_records (records : operation.records)
    (ended : Except Error HostValue × Recorder) :
    trail.performed builder before operation ended =
      trail.recorded builder before.recording ended.2.recording := by
  cases operation with
  | enterRoot | reset | hint | setHint | insertInto => cases records
  | _ => rfl

theorem recorded_of_still {before after : Recording} (still : before.Still after) :
    trail.recorded builder before after = trail := by
  rw [recorded, Recording.entering?_of_still still]

/-- What an operation does to the target and to schedules is what the trail says. -/
theorem Explains.performed {ended : Except Error HostValue × Recorder}
    (explains : trail.Explains before.recording)
    (target : before.builder.lastLoop? = trail.last? builder)
    (plain : (Workbench.Act.perform builder operation).plain)
    (effect : before.Effect operation ended) :
    (trail.performed builder before operation ended).last? =
        Function.update trail.last? builder ended.2.builder.lastLoop? ∧
      (trail.performed builder before operation ended).Explains ended.2.recording := by
  have kept : trail.last? = Function.update trail.last? builder before.builder.lastLoop? := by
    rw [target, Function.update_eq_self]
  cases effect with
  | refused =>
      rw [performed_of_error, recorded_of_still (.refl _)]
      exact ⟨kept, explains⟩
  | records records shifts =>
      rw [performed_of_records records]
      cases shifts with
      | still still =>
          rw [recorded_of_still still.recording, still.target]
          exact ⟨kept, explains.unhinted still.recording.unhinted⟩
      | enters loop enters =>
          rw [Trail.recorded, Recording.entering?_of_enters enters.enters enters.only, enters.target]
          refine ⟨rfl, (explains.unhinted enters.unhinted).turns builder fun other here => ?_⟩
          rw [← Option.some.inj here]
          exact enters.enters.looped
  | begins cleared still =>
      rw [cleared]
      exact ⟨rfl, (explains.unhinted still.unhinted).turns builder nofun⟩
  | resets cleared still =>
      rw [cleared]
      exact ⟨rfl, (explains.unhinted still.unhinted).turns builder nofun⟩
  | @hints kind value answer loop said recorded accepted =>
      -- The builder's own target is the one that is told, so the hint is noted for it.
      have last : trail.last? builder = some loop := target.symm.trans recorded
      have noted : trail.performed builder before (.hint kind value)
          (.ok answer, { before with recording := before.recording.setHint loop kind said }) =
            { trail with accepted := ⟨loop, kind, said⟩ :: trail.accepted } := by
        change trail.hinted builder kind value = _
        rw [Trail.hinted, last, Record.accepted_of_hintValue accepted]
      rw [noted]
      exact ⟨kept, explains.accepts (explains.last last) kind said⟩
  | sets => cases plain
  | inserts free => exact ⟨kept, explains.unhinted (Recording.unhinted_append _ free)⟩

end Trail

namespace Watched

open Workbench (Act)

variable {watched : Watched}

/-- A step keeps what is told right. -/
theorem Told.step (told : watched.Told) {act : Act} (plain : act.plain) :
    (watched.after act).Told := by
  cases act with
  | perform builder operation =>
      let recorder := watched.bench.recorder builder
      have explains : watched.trail.Explains recorder.recording := told.explains
      have target : recorder.builder.lastLoop? = watched.trail.last? builder := told.target builder
      obtain ⟨last, explains⟩ := explains.performed target plain (operation.effect recorder)
      refine ⟨fun other => ?_, explains⟩
      refine Eq.trans ?_ (congrFun last other).symm
      by_cases same : other = builder
      · subst same
        simp only [Watched.after, Workbench.after, Function.update_self]
        rfl
      · simp only [Watched.after, Workbench.after, Function.update_of_ne same]
        exact told.target other
  | meanwhile shared => exact ⟨told.target, told.explains⟩

/-- A course keeps what is told right. -/
theorem Told.course (told : watched.Told) (acts : List Act) (plain : ∀ act ∈ acts, act.plain) :
    (watched.course acts).Told := by
  induction acts generalizing watched with
  | nil => exact told
  | cons act rest hypothesis =>
      exact hypothesis (told.step (plain act (by simp))) fun other member =>
        plain other (by simp [member])

end Watched

namespace Recording

/-- The hints of a loop in the order of their names. -/
def entries? (recording : Recording) (loop : Nat) : Option (List (HintKind × HintValue)) :=
  (recording.schedule? loop).map (·.entries)

variable {recording : Recording} {loop : Nat}

theorem entries?_setHint_comm {first second : HintKind} (different : first ≠ second)
    (said said' : HintValue) (other : Nat) :
    ((recording.setHint loop first said).setHint loop second said').entries? other =
      ((recording.setHint loop second said').setHint loop first said).entries? other := by
  simp only [entries?, schedule?_setHint]
  split
  · cases recording.schedule? other with
    | none => rfl
    | some schedule => exact congrArg some (Schedule.entries_set_comm different said said')
  · rfl

theorem entries?_setHint_setHint (kind : HintKind) (said said' : HintValue) (other : Nat) :
    ((recording.setHint loop kind said).setHint loop kind said').entries? other =
      (recording.setHint loop kind said').entries? other := by
  simp only [entries?, schedule?_setHint]
  split
  · cases recording.schedule? other with
    | none => rfl
    | some schedule => exact congrArg some (Schedule.entries_set_set kind said said')
  · rfl

end Recording

/-- A hint is accepted if there is a loop for it and its value is right, and else
nothing is changed. -/
theorem Operation.run_hint (recorder : Recorder) (kind : HintKind) (value : HostValue) :
    let ended := (Operation.hint kind value).perform.run.run recorder
    ended.1.isOk = (recorder.builder.lastLoop?.isSome && (kind.accepted? value).isSome) ∧
      ended.2 =
        match recorder.builder.lastLoop?, kind.accepted? value with
        | some loop, some said =>
          { recorder with recording := recorder.recording.setHint loop kind said }
        | _, _ => recorder := by
  rw [perform, run_run_map]
  rcases Record.hint_cases recorder kind value with
    ⟨target, run⟩ | ⟨loop, target, ⟨error, refused, run⟩ | ⟨said, accepted, run⟩⟩
  · rw [run, target]
    exact ⟨rfl, rfl⟩
  · cases spoken : kind.accepted? value with
    | none =>
        rw [run, target]
        exact ⟨rfl, rfl⟩
    | some said =>
        rw [Record.hintValue_of_accepted spoken] at refused
        cases refused
  · rw [run, target, Record.accepted_of_hintValue accepted]
    exact ⟨rfl, rfl⟩

namespace Workbench

variable {bench : Workbench} {builder : Nat} {kind : HintKind} {value : HostValue}

def hinted (bench : Workbench) (builder : Nat) (kind : HintKind) (value : HostValue) : Workbench :=
  bench.after builder (.hint kind value)

/-- A hint succeeds. -/
def accepts (bench : Workbench) (builder : Nat) (kind : HintKind) (value : HostValue) : Bool :=
  ((Operation.hint kind value).perform.run.run (bench.recorder builder)).1.isOk

theorem accepts_eq :
    bench.accepts builder kind value =
      ((bench.builders builder).lastLoop?.isSome && (kind.accepted? value).isSome) :=
  (Operation.run_hint (bench.recorder builder) kind value).1

@[simp] theorem builders_hinted : (bench.hinted builder kind value).builders = bench.builders := by
  obtain ⟨-, ends⟩ := Operation.run_hint (bench.recorder builder) kind value
  refine Eq.trans (congrArg (Function.update bench.builders builder) ?_)
    (Function.update_eq_self builder bench.builders)
  rw [ends]
  split <;> rfl

@[simp] theorem recording_hinted :
    (bench.hinted builder kind value).shared.recording =
      match (bench.builders builder).lastLoop?, kind.accepted? value with
      | some loop, some said => bench.shared.recording.setHint loop kind said
      | _, _ => bench.shared.recording := by
  obtain ⟨-, ends⟩ := Operation.run_hint (bench.recorder builder) kind value
  refine Eq.trans (congrArg (·.recording) ends) ?_
  dsimp only [Workbench.recorder]
  split <;> rfl

/-- How the hints that a builder is given work together. -/
structure Hinting (bench : Workbench) (builder : Nat) : Prop where
  /-- A hint is accepted if there is a loop for it and its value is right. -/
  accepts (kind : HintKind) (value : HostValue) :
    bench.accepts builder kind value =
      ((bench.builders builder).lastLoop?.isSome && (kind.accepted? value).isSome)
  /-- A hint that is rejected changes no schedule. -/
  rejected (kind : HintKind) (value : HostValue)
    (rejected : bench.accepts builder kind value = false) :
    (bench.hinted builder kind value).shared.recording = bench.shared.recording
  /-- Hints of different kinds can be given in any order. -/
  commutes (first second : HintKind) (different : first ≠ second) (value value' : HostValue)
    (loop : Nat) :
    ((bench.hinted builder first value).hinted builder second
        value').shared.recording.entries? loop =
      ((bench.hinted builder second value').hinted builder first
        value).shared.recording.entries? loop
  /-- Only the last hint of a kind that is accepted counts. -/
  overrides (kind : HintKind) (value value' : HostValue)
    (accepted : bench.accepts builder kind value') (loop : Nat) :
    ((bench.hinted builder kind value).hinted builder kind
        value').shared.recording.entries? loop =
      (bench.hinted builder kind value').shared.recording.entries? loop

theorem hinting (bench : Workbench) (builder : Nat) : bench.Hinting builder where
  accepts _ _ := accepts_eq
  rejected kind value rejected := by
    rw [recording_hinted]
    rw [accepts_eq] at rejected
    cases target : (bench.builders builder).lastLoop? with
    | none => rfl
    | some loop =>
        cases spoken : kind.accepted? value with
        | none => rfl
        | some said =>
            rw [target, spoken] at rejected
            cases rejected
  commutes first second different value value' loop := by
    simp only [recording_hinted, builders_hinted]
    cases (bench.builders builder).lastLoop? with
    | none => rfl
    | some target =>
        cases first.accepted? value with
        | none => rfl
        | some said =>
            cases second.accepted? value' with
            | none => rfl
            | some said' => exact Recording.entries?_setHint_comm different said said' loop
  overrides kind value value' accepted loop := by
    rw [accepts_eq, Bool.and_eq_true] at accepted
    obtain ⟨said', spoken⟩ := Option.isSome_iff_exists.mp accepted.2
    simp only [recording_hinted, builders_hinted, spoken]
    cases (bench.builders builder).lastLoop? with
    | none => rfl
    | some target =>
        cases kind.accepted? value with
        | none => rfl
        | some said => exact Recording.entries?_setHint_setHint kind said said' loop

end Workbench

end FieldKernel
