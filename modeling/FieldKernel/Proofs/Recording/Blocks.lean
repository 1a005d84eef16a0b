import FieldKernel.Proofs.Recording.Moves

/-!
# Blocks and the statements around them

A block names the statement that it is inside of, a statement names the block
that it is in, and the block of a branch has the label of the branch.  Whatever
host code does with statements that there are, the names stay right.
-/

namespace FieldKernel

namespace StatementKind

variable {kind : StatementKind}

/-- A loop has one block, and a conditional has two. -/
theorem blockOf?_of_body {body : Nat} (inside : kind.inside = [body]) (branch : Branch) :
    kind.blockOf? branch = none := by
  cases kind with
  | branch => cases inside
  | _ => rfl

theorem open?_of_body {body : Nat} (inside : kind.inside = [body]) : kind.open? = none := by
  cases kind with
  | branch => cases inside
  | _ => rfl

theorem exists_blockOf? {condition : HostValue} {onTrue onFalse block : Nat}
    {mark : Option Branch} (inside : block ∈ (branch condition onTrue onFalse mark).inside) :
    ∃ branch, (StatementKind.branch condition onTrue onFalse mark).blockOf? branch = some block := by
  rcases List.mem_pair.mp inside with rfl | rfl
  · exact ⟨.onTrue, rfl⟩
  · exact ⟨.onFalse, rfl⟩

end StatementKind

namespace Recording

variable {recording : Recording}

theorem statement_of_le {id : Nat} (unused : recording.statements.size ≤ id) :
    recording.statement id = ⟨.bare, none, none⟩ := by
  rw [statement, Array.getElem?_eq_none unused]
  rfl

theorem block_of_le {id : Nat} (unused : recording.blocks.size ≤ id) :
    recording.block id = ⟨none, "", []⟩ := by
  rw [block, Array.getElem?_eq_none unused]
  rfl

/-- Blocks know the statement that they are inside of and the branch that they
are for, and statements know the block that they are in. -/
structure Coherent (recording : Recording) : Prop where
  owner {statement block : Nat} (inside : block ∈ (recording.statement statement).kind.inside) :
    (recording.block block).owner? = some statement
  label {statement block : Nat} {branch : Branch}
    (named : (recording.statement statement).kind.blockOf? branch = some block) :
    (recording.block block).label = branch.label
  parent {block member : Nat} (among : member ∈ (recording.block block).statements) :
    (recording.statement member).parent? = some block

theorem coherent_empty : empty.Coherent where
  owner inside := nomatch inside
  label named := nomatch named
  parent among := nomatch among

/-- Different statements have different blocks. -/
theorem Coherent.apart (coherent : recording.Coherent) {one other first second : Nat}
    (different : one ≠ other) (inside : first ∈ (recording.statement one).kind.inside)
    (inside' : second ∈ (recording.statement other).kind.inside) : first ≠ second := by
  rintro rfl
  have owned := coherent.owner inside
  rw [coherent.owner inside'] at owned
  exact different (Option.some.inj owned).symm

/-- Statements are changed in nothing that blocks know of. -/
theorem Coherent.congr {after : Recording} (coherent : recording.Coherent)
    (blocks : ∀ id, after.block id = recording.block id)
    (parents : ∀ id, (after.statement id).parent? = (recording.statement id).parent?)
    (insides : ∀ id, (after.statement id).kind.inside = (recording.statement id).kind.inside)
    (named : ∀ id branch, (after.statement id).kind.blockOf? branch =
      (recording.statement id).kind.blockOf? branch) : after.Coherent where
  owner {statement block} inside := by
    rw [blocks]
    exact coherent.owner (insides statement ▸ inside)
  label {statement block branch} found := by
    rw [blocks]
    exact coherent.label (named statement branch ▸ found)
  parent {block member} among := by
    rw [blocks] at among
    rw [parents]
    exact coherent.parent among

/-- A statement is added with its blocks, which are new and empty. -/
structure Brings (before : Recording) (kind : StatementKind) (after : Recording) : Prop where
  extended : before.Extends after
  size : after.statements.size = before.statements.size + 1
  statement : after.statement before.statements.size = ⟨kind, none, none⟩
  shut : kind.open? = none
  new {block : Nat} (inside : block ∈ kind.inside) : before.blocks.size ≤ block
  owner {block : Nat} (inside : block ∈ kind.inside) :
    (after.block block).owner? = some before.statements.size
  label {branch : Branch} {block : Nat} (named : kind.blockOf? branch = some block) :
    (after.block block).label = branch.label
  empty {block : Nat} (new : before.blocks.size ≤ block) : (after.block block).statements = []

theorem Addition.brings {addition : Recording → Nat × Recording} (added : Addition addition)
    (recording : Recording) : ∃ kind, recording.Brings kind (addition recording).2 := by
  cases added with
  | @leaf kind empty =>
      have adds := adds_addStatement recording kind
      refine ⟨kind, adds.extended, statements_size_addStatement kind, adds.statement, ?_, ?_, ?_,
        ?_, ?_⟩
      · cases kind with
        | branch => cases empty
        | _ => rfl
      · simp [empty]
      · simp [empty]
      · intro branch block named
        have inside := StatementKind.mem_inside_of_blockOf? named
        simp [empty] at inside
      · intro block new
        rw [block_addStatement, block_of_le new]
  | branch condition =>
      have adds := adds_addBranch recording condition
      obtain ⟨onTrue, onFalse, size⟩ := blocks_addBranch recording condition
      refine ⟨_, adds.extended, by simp [addBranch], adds.statement, rfl, ?_, ?_, ?_, ?_⟩
      · intro block inside
        rcases List.mem_pair.mp inside with rfl | rfl <;> omega
      · intro block inside
        rcases List.mem_pair.mp inside with rfl | rfl
        · rw [onTrue]
        · rw [onFalse]
      · intro branch block named
        cases branch with
        | onTrue => rw [← Option.some.inj named, onTrue]
        | onFalse => rw [← Option.some.inj named, onFalse]
      · intro block new
        obtain rfl | rfl | beyond : block = recording.blocks.size ∨
            block = recording.blocks.size + 1 ∨ recording.blocks.size + 2 ≤ block := by
          omega
        · rw [onTrue]
        · rw [onFalse]
        · rw [block_of_le (size ▸ beyond)]
  | loop vars source =>
      have adds := adds_addLoop recording vars source
      obtain ⟨body, size⟩ := blocks_addLoop recording vars source
      refine ⟨_, adds.extended, by simp [addLoop], adds.statement, rfl, ?_, ?_, ?_, ?_⟩
      · intro block inside
        rw [List.mem_singleton.mp inside]
      · intro block inside
        rw [List.mem_singleton.mp inside, body]
      · intro branch block named
        cases named
      · intro block new
        obtain rfl | beyond : block = recording.blocks.size ∨
            recording.blocks.size + 1 ≤ block := by
          omega
        · rw [body]
        · rw [block_of_le (size ▸ beyond)]

section Brings

variable {kind : StatementKind} {after : Recording}

/-- A statement is one that was there before, or the one that was added. -/
theorem Brings.cases (brings : recording.Brings kind after) (id : Nat) :
    after.statement id = recording.statement id ∨
      id = recording.statements.size ∧ after.statement id = ⟨kind, none, none⟩ := by
  rcases Nat.lt_trichotomy id recording.statements.size with old | rfl | beyond
  · exact .inl (brings.extended.statement old)
  · exact .inr ⟨rfl, brings.statement⟩
  · left
    rw [statement_of_le (brings.size ▸ beyond), statement_of_le beyond.le]

theorem Coherent.brings (coherent : recording.Coherent) (brings : recording.Brings kind after) :
    after.Coherent where
  owner {statement block} inside := by
    rcases brings.cases statement with same | ⟨rfl, added⟩
    · rw [same] at inside
      have owned := coherent.owner inside
      rw [brings.extended.block (lt_of_owner owned), owned]
    · rw [added] at inside
      exact brings.owner inside
  label {statement block branch} named := by
    rcases brings.cases statement with same | ⟨rfl, added⟩
    · rw [same] at named
      have owned := coherent.owner (StatementKind.mem_inside_of_blockOf? named)
      rw [brings.extended.block (lt_of_owner owned), coherent.label named]
    · rw [added] at named
      exact brings.label named
  parent {block member} among := by
    by_cases old : block < recording.blocks.size
    · rw [brings.extended.block old] at among
      have held := coherent.parent among
      rw [brings.extended.statement (lt_of_parent held), held]
    · rw [brings.empty (by omega)] at among
      cases among

end Brings

/-- A new block is inside of no statement. -/
theorem Coherent.addBlock (coherent : recording.Coherent) (label : String) :
    (recording.addBlock none label).2.Coherent where
  owner {statement block} inside := by
    have owned := coherent.owner inside
    rw [block_addBlock, if_neg (lt_of_owner owned).ne, owned]
  label {statement block branch} named := by
    have owned := coherent.owner (StatementKind.mem_inside_of_blockOf? named)
    rw [block_addBlock, if_neg (lt_of_owner owned).ne, coherent.label named]
  parent {block member} among := by
    rw [block_addBlock] at among
    split at among
    · cases among
    · exact coherent.parent among

section Append

variable (target member : Nat)

@[simp] theorem kind_append (id : Nat) :
    ((recording.append target member).statement id).kind = (recording.statement id).kind := by
  simp only [append, modifyBlock, modifyStatement, statement, Array.getElem?_modify]
  split
  · cases recording.statements[id]? <;> rfl
  · rfl

theorem block_append (id : Nat) :
    (recording.append target member).block id =
      if id = target ∧ id < recording.blocks.size then
        { recording.block id with statements := (recording.block id).statements ++ [member] }
      else recording.block id := by
  by_cases same : id = target
  · subst same
    by_cases known : id < recording.blocks.size
    · rw [block_append_self member known, if_pos ⟨rfl, known⟩]
    · rw [if_neg fun both => known both.2, @block_of_le _ id (by simpa using known),
        block_of_le (by simpa using known)]
  · rw [block_append_of_ne member same, if_neg fun both => same both.1]

end Append

/-- A statement that is in no block is put into one. -/
theorem Coherent.append (coherent : recording.Coherent) (target : Nat) {member : Nat}
    (known : member < recording.statements.size)
    (free : (recording.statement member).parent? = none) :
    (recording.append target member).Coherent where
  owner {statement block} inside := by
    rw [kind_append] at inside
    rw [block_append]
    split <;> exact coherent.owner inside
  label {statement block branch} named := by
    rw [kind_append] at named
    rw [block_append]
    split <;> exact coherent.label named
  parent {block other} among := by
    have old (among : other ∈ (recording.block block).statements) :
        ((recording.append target member).statement other).parent? = some block := by
      have held := coherent.parent among
      rw [statement_append_of_ne, held]
      rintro rfl
      rw [free] at held
      cases held
    rw [block_append] at among
    split at among
    · next both =>
      rcases List.mem_append.mp among with among | among
      · exact old among
      · rw [List.mem_singleton.mp among, statement_append_self _ known, both.1]
    · exact old among

section Marks

variable (owner : Nat) (mark : Option Branch) (id : Nat)

theorem statement_markOpen :
    (recording.markOpen owner mark).statement id =
      if id = owner ∧ id < recording.statements.size then
        { recording.statement id with kind := (recording.statement id).kind.marked mark }
      else recording.statement id := by
  by_cases same : id = owner
  · subst same
    by_cases known : id < recording.statements.size
    · rw [statement_markOpen_self mark known, if_pos ⟨rfl, known⟩]
    · rw [if_neg fun both => known both.2, @statement_of_le _ id (by simpa using known),
        statement_of_le (by simpa using known)]
  · rw [statement_markOpen_of_ne mark same, if_neg fun both => same both.1]

@[simp] theorem parent?_markOpen :
    ((recording.markOpen owner mark).statement id).parent? = (recording.statement id).parent? := by
  rw [statement_markOpen]
  split <;> rfl

@[simp] theorem inside_markOpen :
    ((recording.markOpen owner mark).statement id).kind.inside =
      (recording.statement id).kind.inside := by
  rw [statement_markOpen]
  split <;> simp

@[simp] theorem blockOf?_markOpen (branch : Branch) :
    ((recording.markOpen owner mark).statement id).kind.blockOf? branch =
      (recording.statement id).kind.blockOf? branch := by
  rw [statement_markOpen]
  split <;> simp

end Marks

theorem Coherent.markOpen (coherent : recording.Coherent) (owner : Nat) (mark : Option Branch) :
    (recording.markOpen owner mark).Coherent :=
  coherent.congr (by simp) (by simp) (by simp) (by simp)

/-- Closing a scope changes no more than one mark. -/
theorem closed_cases (recording : Recording) (scope : HostValue) :
    recording.closed scope = recording ∨ ∃ owner, recording.closed scope = recording.markOpen owner none := by
  unfold closed
  split
  · split
    · split
      · exact .inr ⟨_, rfl⟩
      · exact .inl rfl
    · exact .inl rfl
  · exact .inl rfl

section Closed

variable (scope : HostValue) (id : Nat)

@[simp] theorem block_closed : (recording.closed scope).block id = recording.block id := by
  rcases recording.closed_cases scope with same | ⟨owner, same⟩ <;> rw [same]
  rfl

@[simp] theorem blocks_size_closed :
    (recording.closed scope).blocks.size = recording.blocks.size := by
  rcases recording.closed_cases scope with same | ⟨owner, same⟩ <;> rw [same]
  rfl

@[simp] theorem statements_size_closed :
    (recording.closed scope).statements.size = recording.statements.size := by
  rcases recording.closed_cases scope with same | ⟨owner, same⟩ <;> rw [same]
  exact statements_size_markOpen owner none

@[simp] theorem inside_closed :
    ((recording.closed scope).statement id).kind.inside =
      (recording.statement id).kind.inside := by
  rcases recording.closed_cases scope with same | ⟨owner, same⟩ <;> rw [same]
  exact inside_markOpen owner none id

@[simp] theorem blockOf?_closed (branch : Branch) :
    ((recording.closed scope).statement id).kind.blockOf? branch =
      (recording.statement id).kind.blockOf? branch := by
  rcases recording.closed_cases scope with same | ⟨owner, same⟩ <;> rw [same]
  exact blockOf?_markOpen owner none id branch

@[simp] theorem parent?_closed :
    ((recording.closed scope).statement id).parent? = (recording.statement id).parent? := by
  rcases recording.closed_cases scope with same | ⟨owner, same⟩ <;> rw [same]
  exact parent?_markOpen owner none id

end Closed

theorem Coherent.closed (coherent : recording.Coherent) (scope : HostValue) :
    (recording.closed scope).Coherent :=
  coherent.congr (by simp) (by simp) (by simp) (by simp)

/-- Closing the scope of a block leaves other statements as they are. -/
theorem Coherent.statement_closed (coherent : recording.Coherent) {block last id : Nat}
    (inside : block ∈ (recording.statement last).kind.inside) (other : id ≠ last) :
    (recording.closed (.block block)).statement id = recording.statement id := by
  have owned := coherent.owner inside
  simp only [Recording.closed, owningBranch?, owned]
  split
  · next found =>
    split at found
    · obtain ⟨rfl, _⟩ : last = _ ∧ _ := by simpa using found
      split
      · exact statement_markOpen_of_ne _ other
      · rfl
    · cases found
  · rfl

section Retouches

variable {change : Statement → Statement} (id : Nat)

theorem kind_modifyStatement (kinds : ∀ entry, (change entry).kind.Alike entry.kind)
    (statement : Nat) :
    ((recording.modifyStatement id change).statement statement).kind.Alike
      (recording.statement statement).kind := by
  simp only [modifyStatement, Recording.statement, Array.getElem?_modify]
  split
  · cases recording.statements[statement]? with
    | none => exact .refl _
    | some entry => exact kinds entry
  · exact .refl _

theorem parent?_modifyStatement (parents : ∀ entry, (change entry).parent? = entry.parent?)
    (statement : Nat) :
    ((recording.modifyStatement id change).statement statement).parent? =
      (recording.statement statement).parent? := by
  simp only [modifyStatement, Recording.statement, Array.getElem?_modify]
  split
  · cases recording.statements[statement]? with
    | none => rfl
    | some entry => exact parents entry
  · rfl

end Retouches

end Recording

/-- No step of a builder makes a recording incoherent. -/
theorem Stage.Step.coherent {one other : Stage} (step : Stage.Step False one other)
    (coherent : one.recording.Coherent) : other.recording.Coherent := by
  cases step with
  | addsBlock label => exact coherent.addBlock label
  | @adds recording _ _ _ added =>
      obtain ⟨kind, brings⟩ := added.brings recording
      exact coherent.brings brings
  | @retouches recording _ _ statement _ parents kinds =>
      have alike := @Recording.kind_modifyStatement recording _ statement kinds
      exact coherent.congr (fun _ => rfl) (Recording.parent?_modifyStatement statement parents)
        (fun id => (alike id).inside) fun id => (alike id).blockOf?
  | records _ known free => exact coherent.append _ known free
  | inserts allowed => exact allowed.elim
  | entersBranch => exact coherent.markOpen _ _
  | entersBody => exact coherent
  | opens allowed => exact allowed.elim
  | pops => exact coherent.closed _

theorem Record.Moves.coherent {α : Type} {attempt : Record α} {recorder : Recorder}
    (moves : Record.Moves False attempt recorder) (coherent : recorder.recording.Coherent) :
    (attempt.run.run recorder).2.recording.Coherent := by
  suffices kept : ∀ {one other : Stage}, Stage.Steps False one other →
      one.recording.Coherent → other.recording.Coherent from kept moves coherent
  intro one other steps coherent
  induction steps with
  | refl => exact coherent
  | tail _ step hypothesis => exact step.coherent hypothesis

/-- A statement that is given is there. -/
def HostValue.Known (recording : Recording) : HostValue → Prop
  | .statement id => id < recording.statements.size
  | _ => True

namespace Operation

variable {recorder : Recorder}

def Known (recorder : Recorder) (operation : Operation) : Prop :=
  ∀ value ∈ operation.values, value.Known recorder.recording

/-- The scope of a definition is no block inside of anything. -/
theorem coherent {operation : Operation} (known : operation.Known recorder)
    (coherent : recorder.recording.Coherent) :
    (operation.perform.run.run recorder).2.recording.Coherent := by
  cases operation with
  | createScope scope => exact coherent
  | reset => exact coherent
  | enterRoot scope =>
      by_cases alone : recorder.builder.stack = []
      · obtain ⟨final, run, stage⟩ := Record.enterRoot_run scope alone
        have same : ((enterRoot scope).perform.run.run recorder).2 = final := by
          rw [perform, map_eq_pure_bind, run_run_bind, run]
          rfl
        rw [same]
        rwa [show final.recording = recorder.recording from congrArg Stage.recording stage]
      · refine Record.Moves.coherent (moves ?_) coherent
        exact alone
  | exitRoot =>
      rcases Record.exitRoot_cases recorder with ⟨_, run⟩ | ⟨guard, _, stage⟩
      · rwa [perform, run]
      · have closed : (exitRoot.perform.run.run recorder).2.recording =
            recorder.recording.closed guard.scope := congrArg Stage.recording stage
        rw [closed]
        exact coherent.closed guard.scope
  | insertInto block statement =>
      have same : ((insertInto block statement).perform.run.run recorder).2 =
          ((Record.insertInto block statement).run.run recorder).2 := by
        rw [perform, map_eq_pure_bind, run_run_bind]
        rcases (Record.insertInto block statement).run.run recorder with ⟨error | result, final⟩ <;>
          rfl
      rw [same]
      rcases Record.insertInto_cases recorder block statement with
        unchanged | ⟨target, member, rfl, rfl, free, ends⟩
      · rwa [unchanged]
      · rw [ends]
        exact coherent.append target (known (.statement member) (by simp [values])) free
  | insert statement =>
      refine (moves ?_).coherent coherent
      have given := known statement (by simp [values])
      cases statement with
      | statement id => exact .inr given
      | _ => trivial
  | _ =>
      refine Record.Moves.coherent (moves ?_) coherent
      trivial

end Operation

/-- What host code can come to with statements and builders, with nothing but
statements that there are. -/
inductive Recorder.Worked : Recorder → Prop where
  | start {recorder : Recorder} (empty : recorder.recording = .empty) : Worked recorder
  | perform {recorder : Recorder} (worked : Worked recorder) (operation : Operation)
      (known : operation.Known recorder) : Worked (operation.perform.run.run recorder).2
  | meanwhile {recorder next : Recorder} (worked : Worked recorder)
      (same : next.recording = recorder.recording) : Worked next

theorem Recorder.Worked.coherent {recorder : Recorder} (worked : Worked recorder) :
    recorder.recording.Coherent := by
  induction worked with
  | start empty =>
      rw [empty]
      exact Recording.coherent_empty
  | perform _ operation known hypothesis => exact operation.coherent known hypothesis
  | meanwhile _ same hypothesis =>
      rw [same]
      exact hypothesis

end FieldKernel
