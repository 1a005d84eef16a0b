import FieldKernel.Proofs.Lowering.Contexts
import FieldKernel.Proofs.Lowering.Listings
import FieldKernel.Proofs.Lowering.Schedules

/-!
# Lowering code without its hints

The hints of loops go through lowering untouched.  Code that differs from other code in
hints alone is lowered in the same steps: both come to operations that differ in hints
alone, or both fail.  They fail in the same way, but hints can show in the text that a
failure quotes, and a hint that has too many digits keeps that text from being written.
-/

namespace FieldKernel

mutual

/-- A statement without the hints of the loops in it. -/
def Stmt.hintless : Stmt → Stmt
  | .branch site? condition onTrue onFalse =>
    .branch site? condition (Stmt.blockHintless onTrue) (Stmt.blockHintless onFalse)
  | .loop site? vars source _ body => .loop site? vars source .empty (Stmt.blockHintless body)
  | statement => statement

/-- The statements of a block without the hints of the loops in them. -/
def Stmt.blockHintless : List Stmt → List Stmt
  | [] => []
  | first :: rest => first.hintless :: Stmt.blockHintless rest

end

mutual

/-- An operation without the hints of the loops in it. -/
def Op.hintless : Op → Op
  | .branch condition onTrue onFalse =>
    .branch condition (Op.blockHintless onTrue) (Op.blockHintless onFalse)
  | .rangeLoop var first last body _ => .rangeLoop var first last (Op.blockHintless body) []
  | .elementLoop vars leaf body _ => .elementLoop vars leaf (Op.blockHintless body) []
  | op => op

/-- Operations without the hints of the loops in them. -/
def Op.blockHintless : List Op → List Op
  | [] => []
  | first :: rest => first.hintless :: Op.blockHintless rest

end

/-- A statement that is no branch and no loop. -/
def Stmt.IsPlain : Stmt → Prop
  | .branch _ _ _ _ => False
  | .loop _ _ _ _ _ => False
  | _ => True

/-- How a statement looks that differs from another in hints alone. -/
inductive Stmt.Rehinted : Stmt → Stmt → Prop where
  | plain {statement : Stmt} (plain : statement.IsPlain) : Rehinted statement statement
  | branch (site? : Option Location) (condition : HostValue)
    {onTrue onTrue' onFalse onFalse' : List Stmt}
    (whenTrue : Stmt.blockHintless onTrue' = Stmt.blockHintless onTrue)
    (whenFalse : Stmt.blockHintless onFalse' = Stmt.blockHintless onFalse) :
    Rehinted (.branch site? condition onTrue onFalse) (.branch site? condition onTrue' onFalse')
  | loop (site? : Option Location) (vars : List Variable) (source : LoopSource)
    (schedule schedule' : Schedule) {body body' : List Stmt}
    (inside : Stmt.blockHintless body' = Stmt.blockHintless body) :
    Rehinted (.loop site? vars source schedule body) (.loop site? vars source schedule' body')

theorem Stmt.hintless_of_isPlain {statement : Stmt} (plain : statement.IsPlain) :
    statement.hintless = statement := by
  cases statement with
  | branch | loop => cases plain
  | _ => rfl

theorem Stmt.isPlain_hintless {statement : Stmt} :
    statement.hintless.IsPlain ↔ statement.IsPlain := by
  cases statement with
  | _ => exact Iff.rfl

theorem Stmt.rehinted_of_hintless {one other : Stmt} (same : other.hintless = one.hintless) :
    one.Rehinted other := by
  cases one with
  | branch site? condition onTrue onFalse =>
      cases other with
      | branch site? condition onTrue' onFalse' =>
          simp only [hintless, branch.injEq] at same
          obtain ⟨rfl, rfl, whenTrue, whenFalse⟩ := same
          exact .branch _ _ whenTrue whenFalse
      | _ => simp [hintless] at same
  | loop site? vars source schedule body =>
      cases other with
      | loop site? vars source schedule' body' =>
          simp only [hintless, loop.injEq, true_and] at same
          obtain ⟨rfl, rfl, rfl, inside⟩ := same
          exact .loop _ _ _ _ _ inside
      | _ => simp [hintless] at same
  | _ =>
      have plain : other.IsPlain := isPlain_hintless.mp (same ▸ trivial)
      have equal := (hintless_of_isPlain plain).symm.trans same
      rw [equal]
      exact .plain trivial

theorem Stmt.cons_of_blockHintless {first : Stmt} {rest body : List Stmt}
    (same : Stmt.blockHintless body = Stmt.blockHintless (first :: rest)) :
    ∃ first' rest', body = first' :: rest' ∧ first'.hintless = first.hintless ∧
      Stmt.blockHintless rest' = Stmt.blockHintless rest := by
  cases body with
  | nil => cases same
  | cons first' rest' =>
      simp only [blockHintless, List.cons.injEq] at same
      exact ⟨first', rest', rfl, same⟩

theorem Stmt.nil_of_blockHintless {body : List Stmt} (same : Stmt.blockHintless body = []) :
    body = [] := by
  cases body with
  | nil => rfl
  | cons first rest => cases same

section Texts

variable {α β γ δ : Type}

/-- Two texts end in the same way, unless a number in one of them has too many digits. -/
def Near (one : Except HostFault α) (other : Except HostFault β) : Prop :=
  ending other = ending one ∨ one = .error (.value .longNumber) ∨
    other = .error (.value .longNumber)

namespace Near

theorem refl (text : Except HostFault α) : Near text text :=
  .inl rfl

theorem of_counts {one : Except HostFault α} {other : Except HostFault β} (counts : Counts one)
    (countsOther : Counts other) : Near one other := by
  cases one with
  | error fault => exact .inr (.inl (congrArg Except.error (counts fault rfl)))
  | ok text =>
      cases other with
      | error fault => exact .inr (.inr (congrArg Except.error (countsOther fault rfl)))
      | ok text' => exact .inl rfl

theorem bind {one : Except HostFault α} {other : Except HostFault β}
    {next : α → Except HostFault γ} {next' : β → Except HostFault δ} (first : Near one other)
    (later : ∀ text text', Near (next text) (next' text')) :
    Near (one >>= next) (other >>= next') := by
  rcases first with same | long | long
  · cases one with
    | error fault =>
        cases other with
        | error fault' =>
            cases same
            exact .inl rfl
        | ok text' => cases same
    | ok text =>
        cases other with
        | error fault' => cases same
        | ok text' => exact later text text'
  · rw [long]
    exact .inr (.inl rfl)
  · rw [long]
    exact .inr (.inr rfl)

end Near

/-- Values are written down in ways that are near to one another. -/
structure Rendering.Near (one other : Rendering) : Prop where
  writing : one.Writing
  writingOther : other.Writing
  recorded (value : HostValue) : FieldKernel.Near (one.recorded value) (other.recorded value)

namespace Stmt

variable {one other : Rendering} (near : one.Near other)

include near

theorem branchText_near (condition : HostValue) :
    Near (branchText one condition) (branchText other condition) :=
  (near.recorded condition).bind fun _ _ => .inl rfl

theorem printText_near (value label : HostValue) :
    Near (printText one value label) (printText other value label) :=
  (Near.of_counts (near.writing.listing label) (near.writingOther.listing label)).bind fun _ _ =>
    (near.recorded value).bind fun _ _ => .inl rfl

theorem loopText_near (vars : List Variable) (source : LoopSource)
    (schedule schedule' : Schedule) :
    Near (loopText one vars source schedule) (loopText other vars source schedule') :=
  .of_counts (loopText_counts near.writing vars source schedule)
    (loopText_counts near.writingOther vars source schedule')

theorem text_near {statement statement' : Stmt} (rehinted : statement.Rehinted statement') :
    Near (statement.text one) (statement'.text other) := by
  cases rehinted with
  | plain plain =>
      cases statement with
      | print site? value label => exact printText_near near value label
      | branch | loop => cases plain
      | _ => exact .refl _
  | branch site? condition whenTrue whenFalse => exact branchText_near near condition
  | loop site? vars source schedule schedule' inside =>
      exact loopText_near near vars source schedule schedule'

omit near in
mutual

theorem lines_near (near : one.Near other) (level : Nat) (statement statement' : Stmt)
    (rehinted : statement.Rehinted statement') :
    Near (statement.lines one level) (statement'.lines other level) := by
  cases statement with
  | branch site? condition onTrue onFalse =>
      cases rehinted with
      | plain plain => cases plain
      | branch _ _ whenTrue whenFalse =>
          exact (branchText_near near condition).bind fun _ _ =>
            (blockLines_near near (level + 1) onTrue _ whenTrue).bind fun _ _ =>
            (blockLines_near near (level + 1) onFalse _ whenFalse).bind fun _ _ => .inl rfl
  | loop site? vars source schedule body =>
      cases rehinted with
      | plain plain => cases plain
      | loop _ _ _ _ schedule' inside =>
          exact (loopText_near near vars source schedule schedule').bind fun _ _ =>
            (blockLines_near near (level + 1) body _ inside).bind fun _ _ => .inl rfl
  | print site? value label =>
      cases rehinted
      exact (printText_near near value label).bind fun _ _ => .inl rfl
  | _ =>
      cases rehinted
      exact .refl _

theorem blockLines_near (near : one.Near other) (level : Nat) (body body' : List Stmt)
    (same : Stmt.blockHintless body' = Stmt.blockHintless body) :
    Near (Stmt.blockLines one level body) (Stmt.blockLines other level body') := by
  cases body with
  | nil =>
      rw [nil_of_blockHintless same]
      exact .refl _
  | cons first rest =>
      obtain ⟨first', rest', rfl, head, tail⟩ := cons_of_blockHintless same
      exact (lines_near near level first first' (rehinted_of_hintless head)).bind fun _ _ =>
        (blockLines_near near level rest rest' tail).bind fun _ _ => .inl rfl

end

theorem blockText_near {body body' : List Stmt}
    (same : Stmt.blockHintless body' = Stmt.blockHintless body) :
    Near (Stmt.blockText one body) (Stmt.blockText other body') :=
  (blockLines_near near 0 body body' same).bind fun _ _ => .inl rfl

end Stmt

end Texts

/-- A recorded statement without hints, if it is a loop. -/
def Statement.hintless (statement : Statement) : Statement :=
  { statement with
    kind :=
      match statement.kind with
      | .loop vars source body _ => .loop vars source body .empty
      | kind => kind }

namespace Recording

/-- Recordings that differ in nothing but the hints of loops. -/
structure Matches (one other : Recording) : Prop where
  blocks : other.blocks = one.blocks
  statements : other.statements.map Statement.hintless = one.statements.map Statement.hintless

variable {one other : Recording}

/-- A hint that is given changes nothing but hints. -/
theorem matches_setHint (recording : Recording) (loop : Nat) (kind : HintKind)
    (value : HintValue) : recording.Matches (recording.setHint loop kind value) where
  blocks := rfl
  statements := by
    apply Array.ext_getElem?
    intro index
    simp only [setHint, modifyKind, modifyStatement, Array.getElem?_map, Array.getElem?_modify]
    split
    · cases recording.statements[index]? with
      | none => rfl
      | some statement =>
          obtain ⟨kind, parent?, location?⟩ := statement
          cases kind <;> rfl
    · rfl

namespace Matches

section Statements

variable (alike : one.Matches other)

include alike

theorem size : other.statements.size = one.statements.size := by
  have sizes := congrArg Array.size alike.statements
  rwa [Array.size_map, Array.size_map] at sizes

theorem statement (id : Nat) : (other.statement id).hintless = (one.statement id).hintless := by
  have found : (other.statements.map Statement.hintless)[id]? =
      (one.statements.map Statement.hintless)[id]? := by
    rw [alike.statements]
  rw [Array.getElem?_map, Array.getElem?_map] at found
  rw [Recording.statement, Recording.statement]
  cases known : one.statements[id]? with
  | none =>
      rw [known, Option.map_none, Option.map_eq_none_iff] at found
      rw [found]
  | some entry =>
      rw [known, Option.map_some, Option.map_eq_some_iff] at found
      obtain ⟨entry', known', same⟩ := found
      rw [known']
      exact same

theorem location (id : Nat) : (other.statement id).location? = (one.statement id).location? := by
  have same := congrArg Statement.location? (alike.statement id)
  exact same

end Statements

end Matches

theorem stmtOf_hintless (inside : Nat → List Stmt) (statement : Statement) :
    (stmtOf inside statement).hintless =
      stmtOf (fun block => Stmt.blockHintless (inside block)) statement.hintless := by
  obtain ⟨kind, parent?, location?⟩ := statement
  cases kind <;> rfl

theorem className_hintless (inside : Nat → List Stmt) (statement : Statement) :
    (stmtOf inside statement.hintless).className = (stmtOf inside statement).className := by
  obtain ⟨kind, parent?, location?⟩ := statement
  cases kind <;> rfl

theorem blockHintless_map (statements : List Nat) (tree : Nat → Stmt) :
    Stmt.blockHintless (statements.map tree) = statements.map fun id => (tree id).hintless := by
  induction statements with
  | nil => rfl
  | cons first rest hypothesis => exact congrArg ((tree first).hintless :: ·) hypothesis

namespace Matches

variable (alike : one.Matches other)

include alike

theorem className (id : Nat) : other.className id = one.className id := by
  rw [Recording.className, ← className_hintless, alike.statement, className_hintless]
  rfl

theorem unfold (depth block : Nat) :
    Stmt.blockHintless (other.unfold depth block) =
      Stmt.blockHintless (one.unfold depth block) := by
  -- The depth decreases from a block to those inside its statements.
  induction depth generalizing block with
  | zero => rfl
  | succ depth deeper =>
      rw [Recording.unfold, Recording.unfold, Recording.block, Recording.block, alike.blocks,
        blockHintless_map, blockHintless_map]
      apply List.map_congr_left
      intro id _
      simp only [stmtOf_hintless, alike.statement, deeper]

theorem body (block : Nat) :
    Stmt.blockHintless (other.body block) = Stmt.blockHintless (one.body block) := by
  rw [Recording.body, Recording.body, alike.blocks, alike.unfold]

theorem stmt (id : Nat) : (other.stmt id).hintless = (one.stmt id).hintless := by
  simp only [Recording.stmt, stmtOf_hintless, alike.statement, alike.body]

end Matches

end Recording

/-- Objects that differ in nothing that shows in code but the hints of loops. -/
structure Objects.Matches (one other : Objects) : Prop where
  recording : one.recording.Matches other.recording
  groups : other.groups = one.groups
  layouts : other.layouts = one.layouts

namespace Objects.Matches

variable {one other : Objects} (alike : one.Matches other)

include alike

theorem className (value : HostValue) : other.className value = one.className value := by
  cases value with
  | statement id => exact alike.recording.className id
  | _ => rfl

theorem recordedTo (depth : Nat) (value : HostValue) :
    Near (one.recordedTo depth value) (other.recordedTo depth value) := by
  -- The depth decreases from a value to those in the text of its code.
  induction depth generalizing value with
  | zero => exact .refl _
  | succ depth deeper =>
      have near : Rendering.Near ⟨one.recordedTo depth, one.listing⟩
          ⟨other.recordedTo depth, other.listing⟩ :=
        ⟨⟨one.recordedTo_writes depth, one.listing_counts⟩,
          ⟨other.recordedTo_writes depth, other.listing_counts⟩, deeper⟩
      cases value with
      | group id =>
          simp only [Objects.recordedTo, Objects.group, alike.groups]
          exact .refl _
      | statement id =>
          exact Stmt.text_near near (Stmt.rehinted_of_hintless (alike.recording.stmt id))
      | block id => exact Stmt.blockText_near near (alike.recording.body id)
      | _ => exact .refl _

theorem near : one.rendering.Near other.rendering where
  writing := one.rendering_writing
  writingOther := other.rendering_writing
  recorded value := by
    simp only [rendering, recorded, alike.recording.size]
    exact alike.recordedTo _ value

end Objects.Matches

/-- Contexts of lowering that differ in nothing that matters to code but the hints of loops. -/
structure LoweringContext.Matches (one other : LoweringContext) : Prop where
  arch : other.arch = one.arch
  argTypes : other.argTypes = one.argTypes
  locations : other.locations = one.locations
  objects : one.objects.Matches other.objects

namespace LoweringContext.Matches

variable {one other : LoweringContext}

theorem agrees (alike : one.Matches other) : one.Agrees other :=
  ⟨alike.argTypes, alike.locations, alike.objects.layouts⟩

end LoweringContext.Matches

/-- A failure without the text that it quotes. -/
def Error.unquoted : Error → Error
  | .lowering fault site? _ => .lowering fault site? none
  | .target fault site? _ => .target fault site? none
  | error => error

/-- Two failures differ in the text that they quote, if at all, or one of them says that a
number has too many digits, and not all of the code on its side can be written. -/
def Error.Akin (legible legible' : Prop) (one other : Error) : Prop :=
  other.unquoted = one.unquoted ∨
    (¬legible ∧ one = .host (.value .longNumber)) ∨
    (¬legible' ∧ other = .host (.value .longNumber))

/-- Results that differ in hints alone, or failures that are akin. -/
inductive EndsAlike {α β : Type} (erase : α → β) (legible legible' : Prop) :
    Except Error α → Except Error α → Prop where
  | ok {result result' : α} (same : erase result' = erase result) :
    EndsAlike erase legible legible' (.ok result) (.ok result')
  | error {one other : Error} (akin : one.Akin legible legible' other) :
    EndsAlike erase legible legible' (.error one) (.error other)

variable {legible legible' : Prop}

/-- Errors that quote texts which are near to one another are akin. -/
theorem Error.akin_quoting {text text' : Except HostFault String} {error error' : String → Error}
    (near : Near text text') (written : legible → text.isOk) (written' : legible' → text'.isOk)
    (same : ∀ quoted quoted', (error' quoted').unquoted = (error quoted).unquoted) :
    (Error.quoting text error).Akin legible legible' (Error.quoting text' error') := by
  cases text with
  | ok quoted =>
      cases text' with
      | ok quoted' => exact .inl (same quoted quoted')
      | error fault' =>
          rcases near with ends | long | long
          · cases ends
          · cases long
          · cases long
            exact .inr (.inr ⟨fun few => (nomatch written' few), rfl⟩)
  | error fault =>
      rcases near with ends | long | long
      · cases text' with
        | ok quoted' => cases ends
        | error fault' =>
            cases ends
            exact .inl rfl
      · cases long
        exact .inr (.inl ⟨fun few => (nomatch written few), rfl⟩)
      · cases long
        exact .inr (.inr ⟨fun few => (nomatch written' few), rfl⟩)

namespace Lower

variable {α β γ δ : Type}

/-- Two steps end in the same state, with results that differ in hints alone, or with
failures that are akin. -/
def Twins (erase : α → β) (legible legible' : Prop) (one other : Lower α) : Prop :=
  ∀ state, (other.run.run state).2 = (one.run.run state).2 ∧
    EndsAlike erase legible legible' (one.run.run state).1 (other.run.run state).1

namespace Twins

theorem refl {erase : α → β} (step : Lower α) : Twins erase legible legible' step step := by
  intro state
  refine ⟨rfl, ?_⟩
  cases (step.run.run state).1 with
  | error error => exact .error (.inl rfl)
  | ok result => exact .ok rfl

theorem pure {erase : α → β} {result result' : α} (same : erase result' = erase result) :
    Twins erase legible legible' (pure result) (pure result') :=
  fun _ => ⟨rfl, .ok same⟩

theorem throw {erase : α → β} {one other : Error} (akin : one.Akin legible legible' other) :
    Twins erase legible legible' (throw one) (throw other) :=
  fun _ => ⟨rfl, .error akin⟩

theorem bind {erase : α → β} {later : γ → δ} {one other : Lower α} {next next' : α → Lower γ}
    (first : Twins erase legible legible' one other)
    (second : ∀ result result', erase result' = erase result →
      Twins later legible legible' (next result) (next' result')) :
    Twins later legible legible' (one >>= next) (other >>= next') := by
  intro state
  obtain ⟨states, outcomes⟩ := first state
  rw [run_run_bind, run_run_bind]
  revert states outcomes
  rcases one.run.run state with ⟨outcome, middle⟩
  rcases other.run.run state with ⟨outcome', middle'⟩
  rintro ⟨⟩ outcomes
  cases outcomes with
  | ok same => exact second _ _ same middle
  | error akin => exact ⟨rfl, .error akin⟩

/-- What follows on a step that is the same on both sides. -/
theorem after {later : γ → δ} (step : Lower α) {next next' : α → Lower γ}
    (second : ∀ result, Twins later legible legible' (next result) (next' result)) :
    Twins later legible legible' (step >>= next) (step >>= next') := by
  have first : Twins (id : α → α) legible legible' step step := .refl step
  exact first.bind fun result result' same => (show result' = result from same) ▸ second result

/-- Nothing follows on a failure. -/
theorem refuse {later : γ → δ} {one other : Error} {next next' : α → Lower γ}
    (akin : one.Akin legible legible' other) :
    Twins later legible legible' (MonadExcept.throw one >>= next)
      (MonadExcept.throw other >>= next') :=
  fun _ => ⟨rfl, .error akin⟩

end Twins

theorem checkBound_twins (site? : Option Location) {text text' : Except HostFault String}
    (bound : Nat) (near : Near text text') (written : legible → text.isOk)
    (written' : legible' → text'.isOk) :
    Twins (id : Unit → Unit) legible legible' (checkBound site? text bound)
      (checkBound site? text' bound) := by
  rw [checkBound, checkBound]
  refine .after _ fun type => ?_
  split
  · exact .refl _
  · exact .throw (Error.akin_quoting near written written' fun _ _ => rfl)

variable {context other : LoweringContext} (alike : context.Matches other)

include alike

theorem value_matches (given : HostValue) : value other given = value context given := by
  cases given with
  | expr value => exact expr_agrees alike.agrees value
  | statement id =>
      simp only [value, alike.objects.recording.className, alike.objects.recording.location]
  | _ => simp only [value, alike.objects.className]

theorem print_twins (site? : Option Location) (printed label : HostValue)
    (written : legible → (Stmt.printText context.objects.rendering printed label).isOk)
    (written' : legible' → (Stmt.printText other.objects.rendering printed label).isOk) :
    Twins Op.hintless legible legible' (stmt context (.print site? printed label))
      (stmt other (.print site? printed label)) := by
  simp only [stmt, value_matches alike, alike.arch]
  split
  · exact .refuse (Error.akin_quoting (Stmt.printText_near alike.objects.near printed label)
      written written' fun _ _ => rfl)
  · exact .refl _

/-- What lowering a loop begins with. -/
theorem rangeLoop_twins (site? : Option Location) (vars : List Variable) (first last : Expr)
    (schedule schedule' : Schedule) {body body' : List Stmt}
    (written : legible →
      (Stmt.loopText context.objects.rendering vars (.range first last) schedule).isOk)
    (written' : legible' →
      (Stmt.loopText other.objects.rendering vars (.range first last) schedule').isOk)
    (inside : Twins Op.blockHintless legible legible' (block context body) (block other body')) :
    Twins Op.hintless legible legible'
      (stmt context (.loop site? vars (.range first last) schedule body))
      (stmt other (.loop site? vars (.range first last) schedule' body')) := by
  have near := Stmt.loopText_near alike.objects.near vars (.range first last) schedule schedule'
  simp only [stmt, expr_agrees alike.agrees]
  refine .after _ fun firstNode => .after _ fun lastNode => ?_
  refine (checkBound_twins site? firstNode near written written').bind fun _ _ _ => ?_
  refine (checkBound_twins site? lastNode near written written').bind fun _ _ _ => ?_
  refine .after _ fun _ => inside.bind fun ops ops' same => .pure ?_
  rw [Op.hintless, Op.hintless, same]

omit alike in
mutual

theorem stmt_twins (alike : context.Matches other) (statement statement' : Stmt)
    (rehinted : statement.Rehinted statement')
    (written : legible → statement.Legible context.objects.rendering)
    (written' : legible' → statement'.Legible other.objects.rendering) :
    Twins Op.hintless legible legible' (stmt context statement) (stmt other statement') := by
  have agrees := alike.agrees
  cases statement with
  | alloca site? identifier type =>
      cases rehinted
      exact .refl _
  | assign site? target value =>
      cases rehinted
      cases target with
      | identifier var =>
          simp only [stmt, assign_agrees agrees]
          exact .refl _
      | element key field indices =>
          simp only [stmt, store_agrees agrees]
          exact .refl _
      | _ => exact .refl _
  | load site? place =>
      cases rehinted
      simp only [stmt, leafAt_agrees agrees, indexNodes_agrees agrees]
      exact .refl _
  | store site? place value =>
      cases rehinted
      simp only [stmt, store_agrees agrees]
      exact .refl _
  | print site? printed label =>
      cases rehinted
      exact print_twins alike site? printed label written written'
  | branch site? condition onTrue onFalse =>
      cases rehinted with
      | plain plain => cases plain
      | branch _ _ whenTrue whenFalse =>
          simp only [stmt, value_matches alike]
          refine .after _ fun node => ?_
          refine (block_twins alike onTrue _ whenTrue (fun few => (written few).2.1)
            fun few => (written' few).2.1).bind fun trueOps trueOps' sameTrue => ?_
          refine (block_twins alike onFalse _ whenFalse (fun few => (written few).2.2)
            fun few => (written' few).2.2).bind fun falseOps falseOps' sameFalse => .pure ?_
          rw [Op.hintless, Op.hintless, sameTrue, sameFalse]
  | loop site? vars source schedule body =>
      cases rehinted with
      | plain plain => cases plain
      | loop _ _ _ _ schedule' inside =>
          have twins := block_twins alike body _ inside (fun few => (written few).2)
            fun few => (written' few).2
          cases source with
          | elements field =>
              simp only [stmt, leafOf_agrees agrees]
              refine .after _ fun leaf => .after _ fun _ => .after _ fun _ => ?_
              refine twins.bind fun ops ops' same => .pure ?_
              rw [Op.hintless, Op.hintless, same]
          | range first last =>
              exact rangeLoop_twins alike site? vars first last schedule schedule'
                (fun few => (written few).1) (fun few => (written' few).1) twins
  | bare site? =>
      cases rehinted
      exact .refl _
  | endless =>
      cases rehinted
      exact .refl _

theorem block_twins (alike : context.Matches other) (body body' : List Stmt)
    (same : Stmt.blockHintless body' = Stmt.blockHintless body)
    (written : legible → Stmt.BlockLegible context.objects.rendering body)
    (written' : legible' → Stmt.BlockLegible other.objects.rendering body') :
    Twins Op.blockHintless legible legible' (block context body) (block other body') := by
  cases body with
  | nil =>
      rw [Stmt.nil_of_blockHintless same]
      exact .refl _
  | cons first rest =>
      obtain ⟨first', rest', rfl, head, tail⟩ := Stmt.cons_of_blockHintless same
      rw [block, block]
      refine (stmt_twins alike first first' (Stmt.rehinted_of_hintless head)
        (fun few => (written few).1) fun few => (written' few).1).bind fun op op' sameOp => ?_
      refine (block_twins alike rest rest' tail (fun few => (written few).2)
        fun few => (written' few).2).bind fun ops ops' sameOps => .pure ?_
      rw [Op.blockHintless, Op.blockHintless, sameOp, sameOps]

end

end Lower

namespace KernelIR

/-- A lowered kernel without the hints of its loops. -/
def hintless (ir : KernelIR) : KernelIR :=
  { ir with body := Op.blockHintless ir.body }

end KernelIR

end FieldKernel
