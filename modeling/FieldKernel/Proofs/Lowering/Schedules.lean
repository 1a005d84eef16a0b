import FieldKernel.Proofs.Lowering.Statements
import FieldKernel.Proofs.Recording.Trails

/-!
# Schedules of lowered loops

Lowering goes through a block and all that is inside it.  The loops that come out
stand where the recorded ones stood, and each carries the hints that were accepted
while its loop was the one recorded last.
-/

namespace FieldKernel

/-- The operations inside an operation. -/
def Op.inside : Op → List (List Op)
  | .branch _ onTrue onFalse => [onTrue, onFalse]
  | .rangeLoop _ _ _ body _ => [body]
  | .elementLoop _ _ body _ => [body]
  | _ => []

namespace Recording

mutual

/-- An operation stands where a statement stood, and so does all that is inside it.
The hints that a loop carries are right for the recorded loop. -/
inductive Mirrors (recording : Recording) (carries : Nat → List (HintKind × HintValue) → Prop) :
    Nat → Op → Prop where
  | leaf {statement : Nat} {op : Op} (leaf : (recording.statement statement).kind.inside = [])
      (single : op.inside = []) : Mirrors recording carries statement op
  | branch {statement onTrue onFalse node : Nat} {condition : HostValue} {open? : Option Branch}
      {trueOps falseOps : List Op}
      (stated : (recording.statement statement).kind = .branch condition onTrue onFalse open?)
      (mirrorsTrue : MirrorsAll recording carries (recording.block onTrue).statements trueOps)
      (mirrorsFalse : MirrorsAll recording carries (recording.block onFalse).statements falseOps) :
      Mirrors recording carries statement (.branch node trueOps falseOps)
  | range {loop body firstNode lastNode : Nat} {vars : List Variable} {first last : Expr}
      {schedule : Schedule} {ops : List Op} {hints : List (HintKind × HintValue)}
      (stated : (recording.statement loop).kind = .loop vars (.range first last) body schedule)
      (told : carries loop hints)
      (mirrors : MirrorsAll recording carries (recording.block body).statements ops) :
      Mirrors recording carries loop
        (.rangeLoop (((vars.map (·.identifier.id)).head?).getD 0) firstNode lastNode ops hints)
  | elements {loop body leaf : Nat} {vars : List Variable} {field : Field} {schedule : Schedule}
      {ops : List Op} {hints : List (HintKind × HintValue)}
      (stated : (recording.statement loop).kind = .loop vars (.elements field) body schedule)
      (told : carries loop hints)
      (mirrors : MirrorsAll recording carries (recording.block body).statements ops) :
      Mirrors recording carries loop
        (.elementLoop (vars.map (·.identifier.id)) leaf ops hints)

/-- Operations stand where the statements of a block stood. -/
inductive MirrorsAll (recording : Recording) (carries : Nat → List (HintKind × HintValue) → Prop) :
    List Nat → List Op → Prop where
  | nil : MirrorsAll recording carries [] []
  | cons {first : Nat} {rest : List Nat} {op : Op} {ops : List Op}
      (mirrors : Mirrors recording carries first op)
      (later : MirrorsAll recording carries rest ops) :
      MirrorsAll recording carries (first :: rest) (op :: ops)

end

end Recording

namespace Lower

variable {context : LoweringContext} {state after : Lowering} {op : Op}

theorem store_yields {place : Element} {stored : Expr}
    (success : (store context place stored).Yields state op after) : op.inside = [] := by
  simp only [store, yields_bind, yields_pure] at success
  obtain ⟨_, _, _, _, _, _, _, _, _, _, _, _, _, _, _, rfl, _⟩ := success
  rfl

/-- Lowering a statement without blocks yields an operation without any. -/
theorem inside_of_yields {inside : Nat → List Stmt} {statement : Statement}
    (leaf : statement.kind.inside = [])
    (success : (stmt context (Recording.stmtOf inside statement)).Yields state op after) :
    op.inside = [] := by
  obtain ⟨kind, parent?, location?⟩ := statement
  cases kind with
  | alloca identifier type =>
      simp only [Recording.stmtOf, stmt, yields_bind, yields_pure] at success
      obtain ⟨_, _, _, rfl, _⟩ := success
      rfl
  | assign target value =>
      cases target with
      | identifier var =>
          simp only [Recording.stmtOf, stmt] at success
          obtain ⟨_, _, _, _, _, _, _, _, _, _, _, rfl⟩ := assign_yields success
          rfl
      | element key field indices =>
          simp only [Recording.stmtOf, stmt] at success
          exact store_yields success
      | _ => simp [Recording.stmtOf, stmt] at success
  | load place =>
      simp only [Recording.stmtOf, stmt, yields_bind, yields_pure] at success
      obtain ⟨_, _, _, _, _, _, rfl, _⟩ := success
      rfl
  | store place value =>
      simp only [Recording.stmtOf, stmt] at success
      exact store_yields success
  | print printed label =>
      obtain ⟨_, _, rfl⟩ := print_yields success
      rfl
  | branch | loop => cases leaf
  | bare => simp [Recording.stmtOf, stmt] at success

variable {recording : Recording} {carries : Nat → List (HintKind × HintValue) → Prop}
  (carried : ∀ {loop : Nat} {schedule : Schedule}, recording.schedule? loop = some schedule →
    carries loop schedule.entries)

include carried

theorem stmt_mirrors {inside : Nat → List Stmt} {statement : Nat}
    (mirrors : ∀ {block : Nat} {state after : Lowering} {ops : List Op},
      (Lower.block context (inside block)).Yields state ops after →
        recording.MirrorsAll carries (recording.block block).statements ops)
    (success : (stmt context (Recording.stmtOf inside (recording.statement statement))).Yields
      state op after) :
    recording.Mirrors carries statement op := by
  have lowers := success
  cases stated : (recording.statement statement).kind with
  | branch condition onTrue onFalse open? =>
      simp only [Recording.stmtOf, stated, stmt, yields_bind, yields_pure] at success
      obtain ⟨node, first, _, trueOps, second, lowersTrue, falseOps, third, lowersFalse, rfl, _⟩ :=
        success
      exact .branch stated (mirrors lowersTrue) (mirrors lowersFalse)
  | loop vars source body schedule =>
      have found : recording.schedule? statement = some schedule := by
        rw [Recording.schedule?_eq, stated]
        rfl
      cases source with
      | range first last =>
          simp only [Recording.stmtOf, stated, stmt, yields_bind, yields_checkBound,
            yields_pure] at success
          obtain ⟨firstNode, _, _, lastNode, _, _, _, _, _, _, _, _, _, _, _, ops, _, lowersBody,
            rfl, _⟩ := success
          exact .range stated (carried found) (mirrors lowersBody)
      | elements field =>
          simp only [Recording.stmtOf, stated, stmt, yields_bind, yields_checkArity,
            yields_pure] at success
          obtain ⟨leaf, _, _, _, _, _, _, _, _, ops, _, lowersBody, rfl, _⟩ := success
          exact .elements stated (carried found) (mirrors lowersBody)
  | _ =>
      have leaf : (recording.statement statement).kind.inside = [] := by rw [stated]; rfl
      exact .leaf leaf (inside_of_yields leaf lowers)

/-- Lowering a block yields operations that stand where its statements stood. -/
theorem block_mirrors (depth : Nat) {block : Nat} {state after : Lowering} {ops : List Op}
    (success : (Lower.block context (recording.unfold depth block)).Yields state ops after) :
    recording.MirrorsAll carries (recording.block block).statements ops := by
  -- The depth decreases from a block to those inside its statements; what is nested too
  -- deeply is refused.
  induction depth generalizing block state after ops with
  | zero => simp [Recording.unfold, Lower.block, stmt] at success
  | succ depth deeper =>
      rw [Recording.unfold] at success
      generalize (recording.block block).statements = statements at success ⊢
      induction statements generalizing state ops with
      | nil =>
          rw [List.map_nil, Lower.block] at success
          obtain ⟨rfl, _⟩ := yields_pure.mp success
          exact .nil
      | cons first rest hypothesis =>
          simp only [List.map_cons, Lower.block, yields_bind, yields_pure] at success
          obtain ⟨op, _, lowersFirst, later, _, lowersRest, rfl, rfl⟩ := success
          exact .cons (stmt_mirrors carried deeper lowersFirst) (hypothesis lowersRest)

end Lower

/-- What a loop carries is the last hint of each kind that was accepted for it, in the
order of the names of the kinds. -/
structure Trail.Carries (trail : Trail) (loop : Nat) (hints : List (HintKind × HintValue)) :
    Prop where
  latest (kind : HintKind) (said : HintValue) :
    (kind, said) ∈ hints ↔ trail.latest? loop kind = some said
  sorted : (hints.map Prod.fst).Pairwise fun one other => one.name < other.name

theorem Trail.Explains.carries {trail : Trail} {recording : Recording}
    (explains : trail.Explains recording) {loop : Nat} {schedule : Schedule}
    (found : recording.schedule? loop = some schedule) : trail.Carries loop schedule.entries where
  latest kind said := by rw [Schedule.mem_entries, explains.said found kind]
  sorted := schedule.sorted_entries

theorem KernelIR.block_of_ofBody {name : String} {target : ArchSetting}
    {context : LoweringContext} {body : List Stmt} {slots : TypeSlots} {ir : KernelIR}
    (success : (ofBody name target context body slots).1 = .ok ir) :
    ∃ after, (Lower.block context body).Yields (.start slots) ir.body after := by
  obtain ⟨after, lowered, _⟩ := exists_run success
  exact ⟨after, lowered⟩

/-- Whatever builders have done, a block that can be lowered is lowered to operations
that stand where its statements stood, and a loop carries the last hint of each kind that
was accepted while it was the loop that a builder had recorded last.  Hints that are
rejected change nothing, those of different kinds can be given in any order, and only the
last one of a kind counts. -/
theorem Watched.schedules_carried (shared : Recorder) (acts : List Workbench.Act)
    (plain : ∀ act ∈ acts, act.plain) :
    let watched := (Watched.start shared).course acts
    let recording := watched.bench.shared.recording
    (∀ block name target context slots ir,
      (KernelIR.ofBody name target context (recording.body block) slots).1 = .ok ir →
        recording.MirrorsAll watched.trail.Carries (recording.block block).statements ir.body) ∧
    ∀ builder, watched.bench.Hinting builder := by
  intro watched recording
  refine ⟨?_, watched.bench.hinting⟩
  intro block name target context slots ir success
  have told : watched.Told := (Watched.told_start shared).course acts plain
  obtain ⟨after, lowers⟩ := KernelIR.block_of_ofBody success
  exact Lower.block_mirrors told.explains.carries _ lowers

namespace Nested

def shared : Recorder :=
  ⟨⟨.empty, #[], #[], #[], #[]⟩, ⟨0, 0⟩, .empty, 0, #[]⟩

def counter (id : Nat) : HostValue :=
  .expr (.identifier ⟨id, ⟨id, none⟩⟩)

/-- A kernel with a loop in a loop.  The inner loop has been left when the last hint
is given, and goes on to be the one recorded last. -/
def acts : List Workbench.Act :=
  [.newBlock "body", .enterRoot (.block 0), .build (.freshVariable none),
    .build (.freshVariable none), .openRange (counter 0) (.int 0 0) (.int 0 4),
    .hint .vectorize (.int 0 4), .hint .parallelize (.int 0 8), .hint .parallelize (.int 0 0),
    .openRange (counter 1) (.int 0 0) (.int 0 2), .hint .vectorize (.int 0 4), .popScope, .popScope,
    .hint .vectorize (.int 0 2), .exitRoot].map (.perform 0 ·)

def watched : Watched :=
  (Watched.start shared).course acts

def lowered : Except Error KernelIR :=
  (KernelIR.ofBody "nested" (.member .x86) ⟨.x86, [], watched.bench.shared.toObjects, ∅⟩
    (watched.bench.shared.recording.body 0) .empty).1

/-- The hint that was rejected is not among those that were accepted. -/
example : watched.trail.accepted.map (fun hint => (hint.loop, hint.kind)) =
    [(1, .vectorize), (1, .vectorize), (0, .parallelize), (0, .vectorize)] := by
  decide +kernel

theorem schedules_carried_nested :
    (∀ act ∈ acts, act.plain) ∧ ∃ ir, lowered = .ok ir ∧
      watched.bench.shared.recording.MirrorsAll watched.trail.Carries
        (watched.bench.shared.recording.block 0).statements ir.body := by
  have plain : ∀ act ∈ acts, act.plain := by decide
  have succeeds : lowered.isOk := by decide +kernel
  obtain ⟨carried, -⟩ := Watched.schedules_carried shared acts plain
  cases outcome : lowered with
  | error error =>
      rw [outcome] at succeeds
      cases succeeds
  | ok ir => exact ⟨plain, ir, rfl, carried 0 _ _ _ _ ir outcome⟩

end Nested

end FieldKernel
