import FieldKernel.Proofs.Session.Changes

/-!
# The end of a program is final

A program that has ended stays so, whatever host code does, and wherever it was
when the program ended: between its calls, or inside activations, layouts and
definitions.  From then on everything that is asked of the program, of its
kernels and of its fields is refused.  A kernel whose definition is under way is
not registered any more, as long as host code opens no scope with the builder of
the program.
-/

namespace FieldKernel

/-- A scope can be entered inside others only. -/
theorem Stage.Step.vacant {one other : Stage} (step : Stage.Step False one other)
    (empty : one.stack = []) : other.stack = [] := by
  cases step with
  | records => cases empty
  | inserts allowed => exact allowed.elim
  | entersBranch => cases empty
  | entersBody => cases empty
  | opens allowed => exact allowed.elim
  | pops => cases empty
  | _ => exact empty

namespace Record

variable {α : Type}

/-- An attempt opens no scope where there is none. -/
def Vacates (attempt : Record α) : Prop :=
  ∀ recorder, recorder.builder.stack = [] → (attempt.run.run recorder).2.builder.stack = []

theorem Moves.vacant {attempt : Record α} {recorder : Recorder}
    (moves : Moves False attempt recorder) (empty : recorder.builder.stack = []) :
    (attempt.run.run recorder).2.builder.stack = [] := by
  suffices kept : ∀ {one other : Stage}, Stage.Steps False one other →
      one.stack = [] → other.stack = [] from kept moves empty
  intro one other steps empty
  induction steps with
  | refl => exact empty
  | tail _ step hypothesis => exact step.vacant hypothesis

theorem exitRoot_vacates : exitRoot.Vacates := by
  intro recorder empty
  rcases exitRoot_cases recorder with ⟨_, run⟩ | ⟨guard, _, stage⟩
  · rwa [run]
  · exact congrArg Stage.stack stage

theorem exitRoot_of_vacant {recorder : Recorder} (empty : recorder.builder.stack = []) :
    exitRoot.run.run recorder = (.error (.scope (.unclosed (-1))), recorder) := by
  rcases exitRoot_cases recorder with ⟨_, run⟩ | ⟨guard, scopes, _⟩
  · rw [run, Builder.depth, empty]
    rfl
  · rw [empty] at scopes
    cases scopes

theorem leave_vacates (guard : Guard) (failed : Bool) : (leave guard failed).Vacates :=
  fun _ => (leave_moves guard failed).vacant

theorem insert_vacates (statement : HostValue) : (insert statement).Vacates := by
  intro recorder empty
  refine Moves.vacant (.currentScope fun guard rest scopes => ?_) empty
  rw [empty] at scopes
  cases scopes

theorem insertInto_vacates (block statement : HostValue) :
    (insertInto block statement).Vacates := by
  intro recorder empty
  rcases insertInto_cases recorder block statement with same | ⟨_, _, _, _, _, ends⟩
  · rwa [same]
  · rw [ends]
    exact empty

end Record

/-- Only the operations that say so open a scope where there is none. -/
theorem Operation.vacates {operation : Operation} (closed : operation.opens = false) :
    operation.perform.Vacates := by
  intro recorder empty
  have changed {α : Type} {attempt : Record α} (vacates : attempt.Vacates)
      (change : α → HostValue) : ((change <$> attempt).run.run recorder).2.builder.stack = [] := by
    have kept := vacates recorder empty
    rw [map_eq_pure_bind, run_run_bind]
    revert kept
    rcases attempt.run.run recorder with ⟨error | result, final⟩ <;> exact id
  cases operation with
  | createScope => cases closed
  | enterRoot => cases closed
  | exitRoot => exact Record.exitRoot_vacates recorder empty
  | reset => rfl
  | insert statement => exact changed (Record.insert_vacates statement) _
  | insertInto block statement => exact changed (Record.insertInto_vacates block statement) _
  | _ =>
      refine Record.Moves.vacant (moves ?_) empty
      trivial

namespace Session

/-- A program that there was has ended. -/
def Gone (session : Session) (program : Nat) : Prop :=
  program < session.programs.size ∧ (session.program program).alive = false

instance (session : Session) (program : Nat) : Decidable (session.Gone program) :=
  inferInstanceAs (Decidable (_ ∧ _))

/-- Programs have builders of their own, and one that has ended has no storage
and no layout. -/
structure Tidy (session : Session) (program : Nat) : Prop where
  made {other : Nat} (known : other < session.programs.size) :
    (session.program other).builder < session.builders.size
  apart {other : Nat} (known : program < session.programs.size)
    (known' : other < session.programs.size) (different : other ≠ program) :
    (session.program other).builder ≠ (session.program program).builder
  laid (known : program < session.programs.size) :
    (session.program program).tree < session.layouts.size
  emptied (gone : session.Gone program) : (session.program program).storage? = none ∧
    (session.tree (session.program program).tree).program? = none

/-- A program that has ended has no kernels and no scopes. -/
def Idle (session : Session) (program : Nat) : Prop :=
  session.Gone program → (session.program program).kernels = [] ∧
    (session.builder (session.program program).builder).stack = []

/-- What happens between two sessions does not bring a program back.  That it has
no kernels and no scopes any more is kept up under a condition. -/
structure Leads (program : Nat) (quiet : Prop) (before after : Session) : Prop where
  gone : before.Gone program → after.Gone program
  tidy : before.Tidy program → after.Tidy program
  idle : quiet → before.Tidy program → before.Idle program → after.Idle program
  owner (known : program < before.programs.size) :
    (after.program program).builder = (before.program program).builder
  kernels : before.kernels.size ≤ after.kernels.size
  made {kernel : Nat} (known : kernel < before.kernels.size) :
    (after.kernel kernel).program = (before.kernel kernel).program
  size : before.programs.size ≤ after.programs.size

/-- No program begins or ends.  A builder without scopes has none afterwards, and
a layout without a program has none either. -/
structure Alike (program : Nat) (quiet : Prop) (before after : Session) : Prop where
  size : after.programs.size = before.programs.size
  owner (other : Nat) : (after.program other).builder = (before.program other).builder
  tree : (after.program program).tree = (before.program program).tree
  alive : (after.program program).alive = (before.program program).alive
  storage (gone : before.Gone program) :
    (after.program program).storage? = (before.program program).storage?
  registry : quiet → before.Gone program →
    (after.program program).kernels = (before.program program).kernels
  builders : before.builders.size ≤ after.builders.size
  vacant : quiet → before.Tidy program → before.Gone program →
    (before.builder (before.program program).builder).stack = [] →
      (after.builder (before.program program).builder).stack = []
  layouts : before.layouts.size ≤ after.layouts.size
  detached {id : Nat} (known : id < before.layouts.size)
    (free : (before.tree id).program? = none) : (after.tree id).program? = none
  kernels : before.kernels.size ≤ after.kernels.size
  made {kernel : Nat} (known : kernel < before.kernels.size) :
    (after.kernel kernel).program = (before.kernel kernel).program

section Relations

variable {program : Nat} {quiet : Prop} {before middle after : Session}

theorem Leads.refl (program : Nat) (quiet : Prop) (session : Session) :
    session.Leads program quiet session :=
  ⟨id, id, fun _ _ => id, fun _ => rfl, le_rfl, fun _ => rfl, le_rfl⟩

theorem Leads.trans (first : before.Leads program quiet middle)
    (second : middle.Leads program quiet after) : before.Leads program quiet after where
  gone := second.gone ∘ first.gone
  tidy := second.tidy ∘ first.tidy
  idle quiet tidy idle := second.idle quiet (first.tidy tidy) (first.idle quiet tidy idle)
  owner known := (second.owner (known.trans_le first.size)).trans (first.owner known)
  kernels := first.kernels.trans second.kernels
  made known := (second.made (known.trans_le first.kernels)).trans (first.made known)
  size := first.size.trans second.size

/-- Less is asked for under a stronger condition. -/
theorem Leads.mono {noisy : Prop} (leads : before.Leads program quiet after)
    (stronger : noisy → quiet) : before.Leads program noisy after :=
  { leads with idle := fun holds => leads.idle (stronger holds) }

theorem Alike.refl (program : Nat) (quiet : Prop) (session : Session) :
    session.Alike program quiet session :=
  ⟨rfl, fun _ => rfl, rfl, rfl, fun _ => rfl, fun _ _ => rfl, le_rfl, fun _ _ _ => id, le_rfl,
    fun _ => id, le_rfl, fun _ => rfl⟩

theorem Alike.gone_iff (alike : before.Alike program quiet after) :
    after.Gone program ↔ before.Gone program := by
  rw [Gone, alike.size, alike.alive, Gone]

theorem Alike.leads (alike : before.Alike program quiet after) :
    before.Leads program quiet after where
  gone := alike.gone_iff.mpr
  tidy tidy := by
    constructor
    case made =>
        intro other known
        rw [alike.owner]
        exact (tidy.made (alike.size ▸ known)).trans_le alike.builders
    case apart =>
        intro other known known' different
        rw [alike.owner, alike.owner]
        exact tidy.apart (alike.size ▸ known) (alike.size ▸ known') different
    case laid =>
        intro known
        rw [alike.tree]
        exact (tidy.laid (alike.size ▸ known)).trans_le alike.layouts
    case emptied =>
        intro gone
        have earlier := alike.gone_iff.mp gone
        obtain ⟨unstored, free⟩ := tidy.emptied earlier
        rw [alike.storage earlier, alike.tree]
        exact ⟨unstored, alike.detached (tidy.laid earlier.1) free⟩
  idle quiet tidy idle gone := by
    have earlier := alike.gone_iff.mp gone
    obtain ⟨unnamed, empty⟩ := idle earlier
    rw [alike.registry quiet earlier, alike.owner]
    exact ⟨unnamed, alike.vacant quiet tidy earlier empty⟩
  owner _ := alike.owner program
  kernels := alike.kernels
  made := alike.made
  size := alike.size.ge

end Relations

section Changes

variable {program : Nat} {quiet : Prop} {session after : Session}

/-- Nothing happens to programs, builders, kernels and layouts. -/
theorem Same.leads (same : session.Same after) (layouts : after.layouts = session.layouts) :
    session.Leads program quiet after := by
  have tree (id : Nat) : after.tree id = session.tree id := by
    rw [Objects.tree, layouts, Objects.tree]
  refine Alike.leads ⟨?_, fun other => ?_, ?_, ?_, fun _ => ?_, fun _ _ => ?_, ?_,
    fun _ _ _ empty => ?_, ?_, fun _ free => ?_, ?_, fun _ => ?_⟩
  · rw [same.programs]
  all_goals try rw [same.program]
  · rw [same.builders]
  · rwa [same.builder]
  · rw [layouts]
  · rwa [tree]
  · rw [same.kernels]
  · rw [Objects.kernel, same.kernels, Objects.kernel]

/-- A program is changed in what does not matter here, or while it is alive. -/
theorem leads_modifyProgram (id : Nat) {change : Program → Program}
    (builder : ∀ entry, (change entry).builder = entry.builder)
    (tree : ∀ entry, (change entry).tree = entry.tree)
    (alive : ∀ entry, (change entry).alive = entry.alive)
    (storage : session.Gone id →
      (change (session.program id)).storage? = (session.program id).storage?)
    (registry : quiet → id = program → session.Gone id →
      (change (session.program id)).kernels = (session.program id).kernels) :
    session.Leads program quiet
      { session with programs := session.programs.modify id change } := by
  have entry (other : Nat) :
      Session.program { session with programs := session.programs.modify id change } other =
        if other = id ∧ id < session.programs.size then change (session.program id)
        else session.program other := by
    simp only [Session.program, Array.getElem?_modify]
    by_cases same : id = other
    · subst same
      by_cases known : id < session.programs.size
      · simp [known]
      · simp [known]
    · rw [if_neg same, if_neg fun both => same both.1.symm]
  have kept {α : Type} (field : Program → α) (other : Nat)
      (same : ∀ entry, field (change entry) = field entry) :
      field (Session.program { session with programs := session.programs.modify id change } other) =
        field (session.program other) := by
    rw [entry]
    split
    · next here => rw [same, here.1]
    · rfl
  refine Alike.leads { Alike.refl program quiet session with
    size := Array.size_modify
    owner := fun other => kept Program.builder other builder
    tree := kept Program.tree program tree
    alive := kept Program.alive program alive
    storage := fun gone => ?_
    registry := fun holds gone => ?_ }
  · rw [entry]
    split
    · next here =>
      obtain ⟨rfl, _⟩ := here
      exact storage gone
    · rfl
  · rw [entry]
    split
    · next here =>
      obtain ⟨rfl, _⟩ := here
      exact registry holds rfl gone
    · rfl

/-- A kernel is changed, but not its program. -/
theorem leads_modifyKernel (id : Nat) {change : Kernel → Kernel}
    (owner : ∀ entry, (change entry).program = entry.program) :
    session.Leads program quiet { session with kernels := session.kernels.modify id change } := by
  refine Alike.leads { Alike.refl program quiet session with
    kernels := Array.size_modify.ge
    made := fun {kernel} _ => ?_ }
  rw [Objects.kernel, Objects.kernel]
  dsimp only
  rw [Array.getElem?_modify]
  split
  · cases session.kernels[kernel]? with
    | none => rfl
    | some entry => exact owner entry
  · rfl

theorem leads_addKernel (entry : Kernel) :
    session.Leads program quiet { session with kernels := session.kernels.push entry } := by
  refine Alike.leads { Alike.refl program quiet session with
    kernels := by simp
    made := fun {kernel} known => ?_ }
  simp [Objects.kernel, Array.getElem?_push, known.ne]

/-- A tree is replaced by another one of the same program. -/
theorem leads_setTree (id : Nat) {tree : Tree}
    (owner : tree.program? = (session.tree id).program?) :
    session.Leads program quiet
      { session with layouts := session.layouts.modify id fun _ => tree } := by
  refine Alike.leads { Alike.refl program quiet session with
    layouts := Array.size_modify.ge
    detached := fun {other} known free => ?_ }
  rw [Objects.tree] at free ⊢
  dsimp only
  rw [Array.getElem?_modify]
  split
  · next here =>
    subst here
    rw [Objects.tree] at owner
    rw [Array.getElem?_eq_getElem known] at free owner ⊢
    exact owner.trans free
  · exact free

theorem leads_addTree (tree : Tree) :
    session.Leads program quiet { session with layouts := session.layouts.push tree } := by
  refine Alike.leads { Alike.refl program quiet session with
    layouts := by simp
    detached := fun {other} known free => ?_ }
  rw [Objects.tree] at free ⊢
  rwa [Array.getElem?_push_lt known, ← Array.getElem?_eq_getElem known]

theorem leads_addBuilder :
    session.Leads program quiet { session with builders := session.builders.push .empty } := by
  refine Alike.leads { Alike.refl program quiet session with
    builders := by simp
    vacant := fun _ _ _ empty => ?_ }
  rw [Session.builder] at empty ⊢
  dsimp only
  rw [Array.getElem?_push]
  split
  · rfl
  · exact empty

/-- A builder of the program that has ended and has no scopes gets none. -/
theorem leads_having {builder : Nat} {recorder : Recorder}
    (vacant : quiet → session.Tidy program → session.Gone program →
      builder = (session.program program).builder → (session.builder builder).stack = [] →
        recorder.builder.stack = []) :
    session.Leads program quiet (session.having builder recorder) := by
  refine Alike.leads { Alike.refl program quiet session with
    builders := Array.size_modify.ge
    vacant := fun holds tidy gone empty => ?_ }
  by_cases same : builder = (session.program program).builder
  · rw [← same] at empty ⊢
    by_cases made : builder < session.builders.size
    · rw [builder_having_self made]
      exact vacant holds tidy gone same empty
    · rw [Session.builder, having, Array.getElem?_eq_none (by simpa using made)]
      rfl
  · rwa [builder_having_of_ne (Ne.symm same)]

end Changes

section Lives

variable {program : Nat} {quiet : Prop} (session : Session)

/-- A program is added, which has a tree and a builder of its own. -/
structure Founds (before : Session) (entry : Program) (after : Session) : Prop where
  builder : entry.builder = before.builders.size
  tree : entry.tree = before.layouts.size
  alive : entry.alive
  programs : after.programs = before.programs.push entry
  builders : after.builders = before.builders.push .empty
  layouts : after.layouts = before.layouts.push (.new (some before.programs.size))
  kernels : after.kernels = before.kernels

section Founding

variable {session} {after : Session} {entry : Program} (founds : session.Founds entry after)

include founds

theorem Founds.size : after.programs.size = session.programs.size + 1 := by
  rw [founds.programs, Array.size_push]

theorem Founds.new : after.program session.programs.size = entry := by
  simp [Session.program, founds.programs]

theorem Founds.old {other : Nat} (known : other < session.programs.size) :
    after.program other = session.program other := by
  rw [Session.program, founds.programs, Array.getElem?_push, if_neg known.ne, Session.program]

theorem Founds.old_tree {id : Nat} (known : id < session.layouts.size) :
    after.tree id = session.tree id := by
  rw [Objects.tree, founds.layouts, Array.getElem?_push, if_neg known.ne, Objects.tree]

theorem Founds.old_builder {id : Nat} (known : id < session.builders.size) :
    after.builder id = session.builder id := by
  rw [Session.builder, founds.builders, Array.getElem?_push, if_neg known.ne, Session.builder]

theorem Founds.known {other : Nat} (known : other < after.programs.size) :
    other < session.programs.size ∨ other = session.programs.size :=
  Nat.lt_succ_iff_lt_or_eq.mp (known.trans_eq founds.size)

/-- A program that is gone has been there before. -/
theorem Founds.gone (gone : after.Gone program) : session.Gone program := by
  obtain ⟨known, dead⟩ := gone
  rcases founds.known known with known | rfl
  · exact ⟨known, founds.old known ▸ dead⟩
  · rw [founds.new, founds.alive] at dead
    cases dead

theorem Founds.tidy (tidy : session.Tidy program) : after.Tidy program := by
  have made {other : Nat} (known : other < after.programs.size) :
      (after.program other).builder = session.builders.size ∧ other = session.programs.size ∨
        (after.program other).builder < session.builders.size ∧
          other < session.programs.size := by
    rcases founds.known known with known | rfl
    · exact .inr ⟨founds.old known ▸ tidy.made known, known⟩
    · exact .inl ⟨founds.new ▸ founds.builder, rfl⟩
  constructor
  case made =>
      intro other known
      rw [founds.builders, Array.size_push]
      rcases made known with ⟨same, _⟩ | ⟨below, _⟩
      · exact same ▸ Nat.lt_succ_self _
      · exact below.trans (Nat.lt_succ_self _)
  case apart =>
      intro other known known' different
      rcases made known with ⟨same, rfl⟩ | ⟨below, known⟩ <;>
        rcases made known' with ⟨same', rfl⟩ | ⟨below', known'⟩
      · exact (different rfl).elim
      · exact same ▸ below'.ne
      · exact same' ▸ below.ne'
      · rw [founds.old known, founds.old known']
        exact tidy.apart known known' different
  case laid =>
      intro known
      rw [founds.layouts, Array.size_push]
      rcases founds.known known with known | rfl
      · exact (founds.old known ▸ tidy.laid known).trans (Nat.lt_succ_self _)
      · exact founds.new ▸ founds.tree ▸ Nat.lt_succ_self _
  case emptied =>
      intro gone
      have before := founds.gone gone
      rw [founds.old before.1, founds.old_tree (tidy.laid before.1)]
      exact tidy.emptied before

theorem Founds.leads : session.Leads program quiet after where
  gone gone := ⟨founds.size ▸ gone.1.trans (Nat.lt_succ_self _), founds.old gone.1 ▸ gone.2⟩
  tidy := founds.tidy
  idle _ tidy idle gone := by
    have before := founds.gone gone
    rw [founds.old before.1, founds.old_builder (tidy.made before.1)]
    exact idle before
  owner known := founds.old known ▸ rfl
  kernels := founds.kernels ▸ le_rfl
  made _ := by rw [Objects.kernel, founds.kernels, Objects.kernel]
  size := founds.size ▸ Nat.le_succ _

end Founding

theorem leads_newProgram (config? : Option CompileConfig) :
    session.Leads program quiet ((Action.newProgram config?).run.run session).2 := by
  obtain ⟨entry, founds⟩ : ∃ entry,
      session.Founds entry ((Action.newProgram config?).run.run session).2 :=
    ⟨_, rfl, rfl, rfl, rfl, rfl, rfl, rfl⟩
  exact founds.leads

/-- The session after a program has ended. -/
def torn (program : Nat) : Session :=
  { session with
    builders := session.builders.modify (session.program program).builder fun _ => .empty
    programs := session.programs.modify program fun entry =>
      { entry with alive := false, kernels := [], storage? := none }
    layouts := session.layouts.modify (session.program program).tree fun _ =>
      { session.tree (session.program program).tree with program? := none }
    entered := session.entered.erase program
    log := session.log.push (.detail .program "program torn down") }

theorem run_torn {program : Nat} (alive : (session.program program).alive) :
    (Action.teardown program).run.run session = (.ok (), session.torn program) := by
  change (if (session.program program).alive then _ else pure PUnit.unit :
    Action Unit).run.run session = _
  rw [if_pos alive]
  rfl

theorem builder_torn {builder : Nat} (program : Nat)
    (same : builder = (session.program program).builder ∨ (session.builder builder).stack = []) :
    ((session.torn program).builder builder).stack = [] := by
  rw [torn, Session.builder, Array.getElem?_modify]
  split
  · cases session.builders[builder]? <;> rfl
  · next different => exact same.resolve_left (Ne.symm different)

theorem tree_torn {id : Nat} (program : Nat)
    (free : (id < session.layouts.size ∧ id = (session.program program).tree) ∨
      (session.tree id).program? = none) :
    ((session.torn program).tree id).program? = none := by
  rw [torn, Objects.tree, Array.getElem?_modify]
  split
  · next here =>
    cases found : session.layouts[id]? with
    | none => rfl
    | some tree => rfl
  · next different =>
    exact free.resolve_left fun both => different both.2.symm

section Ending

variable {other : Nat}

theorem program_torn_self (alive : (session.program other).alive) :
    (session.torn other).program other =
      { session.program other with alive := false, kernels := [], storage? := none } :=
  session.program_modified_self alive _

theorem program_torn_of_ne {id : Nat} (different : id ≠ other) :
    (session.torn other).program id = session.program id :=
  session.program_modified_of_ne different _

theorem owner_torn (alive : (session.program other).alive) (id : Nat) :
    ((session.torn other).program id).builder = (session.program id).builder := by
  by_cases same : id = other
  · rw [same, session.program_torn_self alive]
  · rw [session.program_torn_of_ne same]

theorem layout_torn (alive : (session.program other).alive) (id : Nat) :
    ((session.torn other).program id).tree = (session.program id).tree := by
  by_cases same : id = other
  · rw [same, session.program_torn_self alive]
  · rw [session.program_torn_of_ne same]

theorem size_torn (other : Nat) : (session.torn other).programs.size = session.programs.size :=
  Array.size_modify

theorem gone_torn_of_ne (different : program ≠ other) :
    (session.torn other).Gone program ↔ session.Gone program := by
  rw [Gone, session.program_torn_of_ne different, session.size_torn, Gone]

theorem tidy_torn (alive : (session.program other).alive) (tidy : session.Tidy program) :
    (session.torn other).Tidy program := by
  have builders : (session.torn other).builders.size = session.builders.size := Array.size_modify
  have layouts : (session.torn other).layouts.size = session.layouts.size := Array.size_modify
  have known {id : Nat} (known : id < (session.torn other).programs.size) :
      id < session.programs.size := session.size_torn other ▸ known
  constructor
  case made =>
      intro id there
      rw [session.owner_torn alive, builders]
      exact tidy.made (known there)
  case apart =>
      intro id there there' different
      rw [session.owner_torn alive, session.owner_torn alive]
      exact tidy.apart (known there) (known there') different
  case laid =>
      intro there
      rw [session.layout_torn alive, layouts]
      exact tidy.laid (known there)
  case emptied =>
      intro gone
      rw [session.layout_torn alive]
      by_cases same : program = other
      · subst same
        rw [session.program_torn_self alive]
        exact ⟨rfl, session.tree_torn program (.inl ⟨tidy.laid (known gone.1), rfl⟩)⟩
      · rw [session.program_torn_of_ne same]
        obtain ⟨unstored, free⟩ := tidy.emptied ((session.gone_torn_of_ne same).mp gone)
        exact ⟨unstored, session.tree_torn other (.inr free)⟩

theorem idle_torn (alive : (session.program other).alive) (idle : session.Idle program) :
    (session.torn other).Idle program := by
  intro gone
  rw [session.owner_torn alive]
  by_cases same : program = other
  · subst same
    rw [session.program_torn_self alive]
    exact ⟨rfl, session.builder_torn program (.inl rfl)⟩
  · rw [session.program_torn_of_ne same]
    obtain ⟨unnamed, empty⟩ := idle ((session.gone_torn_of_ne same).mp gone)
    exact ⟨unnamed, session.builder_torn other (.inr empty)⟩

/-- A program that ends leaves nothing of it, and another one that has ended
before as it was. -/
theorem leads_torn (alive : (session.program other).alive) :
    session.Leads program quiet (session.torn other) where
  gone gone := by
    have different : program ≠ other := by
      rintro rfl
      rw [gone.2] at alive
      cases alive
    exact (session.gone_torn_of_ne different).mpr gone
  tidy := session.tidy_torn alive
  idle _ _ := session.idle_torn alive
  owner _ := session.owner_torn alive program
  kernels := le_rfl
  made _ := rfl
  size := (session.size_torn other).ge

end Ending

theorem leads_teardown (other : Nat) :
    session.Leads program quiet ((Action.teardown other).run.run session).2 := by
  by_cases alive : (session.program other).alive
  · rw [session.run_torn alive]
    exact session.leads_torn alive
  · rw [HostT.run_teardown_of_dead (by simpa using alive)]
    exact .refl program quiet session

/-- Whatever was known, a program that was there is gone after its end. -/
theorem gone_teardown {other : Nat} (known : other < session.programs.size) :
    ((Action.teardown other).run.run session).2.Gone other := by
  by_cases alive : (session.program other).alive
  · rw [session.run_torn alive]
    refine ⟨known.trans_eq Array.size_modify.symm, ?_⟩
    exact congrArg Program.alive (session.program_modified_self alive _)
  · rw [HostT.run_teardown_of_dead (by simpa using alive)]
    exact ⟨known, by simpa using alive⟩

end Lives

end Session

namespace Session

variable {program : Nat} {before after : Session}

theorem Change.leads (change : Change before after) : before.Leads program True after := by
  cases change with
  | elsewhere same layouts => exact same.leads layouts
  | makes operation => exact Same.leads ⟨rfl, rfl, rfl⟩ rfl
  | addsBuilder => exact leads_addBuilder
  | addsTree tree => exact leads_addTree tree
  | setsTree id owner => exact leads_setTree id owner
  | addsKernel entry => exact leads_addKernel entry
  | kernel id owner => exact leads_modifyKernel id owner
  | program id builder tree alive kernels storage =>
      exact leads_modifyProgram id builder tree alive (fun gone => storage gone.2)
        fun _ _ _ => kernels _

theorem leads_of_changed (changed : Action.Changed before after) :
    before.Leads program True after := by
  induction changed with
  | refl => exact .refl program True before
  | tail _ change hypothesis => exact hypothesis.trans change.leads

end Session

namespace Action

variable {α : Type} {program : Nat}

theorem leads_of_keeps {action : Action α}
    (keeps : ∀ first, Keeps (Changed first) action) (session : Session) :
    session.Leads program True (action.run.run session).2 :=
  Session.leads_of_changed (keeps_iff.mp (keeps session) session .refl)

theorem record_leads (builder : Nat) {attempt : Record α} (vacates : attempt.Vacates)
    (session : Session) :
    session.Leads program True ((record builder attempt).run.run session).2 :=
  session.leads_having fun _ _ _ _ empty =>
    vacates (session.recorder (session.builder builder)) empty

end Action

end FieldKernel
