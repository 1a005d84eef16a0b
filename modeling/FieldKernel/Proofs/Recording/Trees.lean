import FieldKernel.Proofs.Recording.Tangles

/-!
# Trees of statements

A statement that is in a block is there once, and it is in no other block.  As
long as no statement is inside itself, the blocks make trees: whatever goes
through the statements of a block comes to an end.
-/

namespace FieldKernel

open Relation (ReflTransGen TransGen)

namespace Stmt

mutual

/-- A statement and all that is inside it, in the order they are written. -/
def parts : Stmt → List Stmt
  | branch site? condition onTrue onFalse =>
    branch site? condition onTrue onFalse :: blockParts onTrue ++ blockParts onFalse
  | loop site? vars source schedule body => loop site? vars source schedule body :: blockParts body
  | statement => [statement]

/-- The statements of a block and all that is inside them. -/
def blockParts : List Stmt → List Stmt
  | [] => []
  | first :: rest => first.parts ++ blockParts rest

end

mutual

/-- A walk lists all statements, or it fails at one that has no end. -/
theorem walk_eq (statement : Stmt) :
    (endless ∉ statement.parts ∧ statement.walk = .ok (statement.parts.map className)) ∨
      endless ∈ statement.parts ∧ statement.walk = .error .recursion := by
  cases statement with
  | branch site? condition onTrue onFalse =>
      rcases blockWalk_eq onTrue with ⟨ends, walk⟩ | ⟨endless, walk⟩
      · rcases blockWalk_eq onFalse with ⟨ends', walk'⟩ | ⟨endless, walk'⟩
        · refine .inl ⟨by simp [parts, ends, ends'], ?_⟩
          rw [Stmt.walk, walk, walk', parts, List.map_append]
          rfl
        · refine .inr ⟨by simp [parts, endless], ?_⟩
          rw [Stmt.walk, walk, walk']
          rfl
      · refine .inr ⟨by simp [parts, endless], ?_⟩
        rw [Stmt.walk, walk]
        rfl
  | loop site? vars source schedule body =>
      rcases blockWalk_eq body with ⟨ends, walk⟩ | ⟨endless, walk⟩
      · refine .inl ⟨by simp [parts, ends], ?_⟩
        rw [Stmt.walk, walk, parts]
        rfl
      · refine .inr ⟨by simp [parts, endless], ?_⟩
        rw [Stmt.walk, walk]
        rfl
  | endless => exact .inr ⟨by simp [parts], rfl⟩
  | _ => exact .inl ⟨by simp [parts], rfl⟩

theorem blockWalk_eq (statements : List Stmt) :
    (endless ∉ blockParts statements ∧
        blockWalk statements = .ok ((blockParts statements).map className)) ∨
      endless ∈ blockParts statements ∧ blockWalk statements = .error .recursion := by
  cases statements with
  | nil => exact .inl ⟨by simp [blockParts], rfl⟩
  | cons first rest =>
      rcases walk_eq first with ⟨ends, walk⟩ | ⟨endless, walk⟩
      · rcases blockWalk_eq rest with ⟨ends', walk'⟩ | ⟨endless, walk'⟩
        · refine .inl ⟨by simp [blockParts, ends, ends'], ?_⟩
          rw [blockWalk, walk, walk', blockParts, List.map_append]
          rfl
        · refine .inr ⟨by simp [blockParts, endless], ?_⟩
          rw [blockWalk, walk, walk']
          rfl
      · refine .inr ⟨by simp [blockParts, endless], ?_⟩
        rw [blockWalk, walk]
        rfl

end

section Lines

variable {rendering : Rendering} {fault : HostFault}

/-- Of two attempts in a row, one fails if both do not come to an end. -/
theorem fails_of_bind {α β : Type} {attempt : Except HostFault α} {next : α → Except HostFault β}
    (fails : (attempt >>= next) = .error fault) :
    attempt = .error fault ∨ ∃ result, next result = .error fault := by
  cases attempt with
  | error other =>
      cases fails
      exact .inl rfl
  | ok result => exact .inr ⟨result, fails⟩

mutual

/-- Where the lines of a statement fail, the text of a statement in it fails. -/
theorem exists_text_of_lines {level : Nat} (statement : Stmt)
    (fails : statement.lines rendering level = .error fault) :
    ∃ part ∈ statement.parts, part.text rendering = .error fault := by
  cases statement with
  | branch site? condition onTrue onFalse =>
      rw [lines] at fails
      rcases fails_of_bind fails with head | ⟨_, fails⟩
      · exact ⟨_, List.mem_cons_self, head⟩
      rcases fails_of_bind fails with inner | ⟨_, fails⟩
      · obtain ⟨part, member, text⟩ := exists_text_of_blockLines onTrue inner
        exact ⟨part, by simp [parts, member], text⟩
      rcases fails_of_bind fails with inner | ⟨_, fails⟩
      · obtain ⟨part, member, text⟩ := exists_text_of_blockLines onFalse inner
        exact ⟨part, by simp [parts, member], text⟩
      cases fails
  | loop site? vars source schedule body =>
      rw [lines] at fails
      rcases fails_of_bind fails with head | ⟨_, fails⟩
      · exact ⟨_, List.mem_cons_self, head⟩
      rcases fails_of_bind fails with inner | ⟨_, fails⟩
      · obtain ⟨part, member, text⟩ := exists_text_of_blockLines body inner
        exact ⟨part, by simp [parts, member], text⟩
      cases fails
  | alloca => cases fails
  | assign | load | store | print =>
      rcases fails_of_bind fails with text | ⟨_, fails⟩
      · exact ⟨_, List.mem_singleton_self _, text⟩
      cases fails
  | bare | endless =>
      cases fails
      exact ⟨_, List.mem_singleton_self _, rfl⟩

theorem exists_text_of_blockLines {level : Nat} (statements : List Stmt)
    (fails : blockLines rendering level statements = .error fault) :
    ∃ part ∈ blockParts statements, part.text rendering = .error fault := by
  cases statements with
  | nil => cases fails
  | cons first rest =>
      rw [blockLines] at fails
      rcases fails_of_bind fails with inner | ⟨_, fails⟩
      · obtain ⟨part, member, text⟩ := exists_text_of_lines first inner
        exact ⟨part, by simp [blockParts, member], text⟩
      rcases fails_of_bind fails with inner | ⟨_, fails⟩
      · obtain ⟨part, member, text⟩ := exists_text_of_blockLines rest inner
        exact ⟨part, by simp [blockParts, member], text⟩
      cases fails

end

end Lines

end Stmt

namespace Recording

variable {recording : Recording}

/-- The tree of a statement has the trees of the blocks inside it. -/
theorem mem_parts_stmtOf {inside : Nat → List Stmt} {statement : Statement} {part : Stmt} :
    part ∈ (stmtOf inside statement).parts ↔
      part = stmtOf inside statement ∨
        ∃ block ∈ statement.kind.inside, part ∈ Stmt.blockParts (inside block) := by
  obtain ⟨kind, parent?, location?⟩ := statement
  cases kind <;> simp [stmtOf, Stmt.parts, StatementKind.inside]

theorem mem_blockParts {part : Stmt} {statements : List Stmt} :
    part ∈ Stmt.blockParts statements ↔ ∃ statement ∈ statements, part ∈ statement.parts := by
  induction statements with
  | nil => simp [Stmt.blockParts]
  | cons first rest hypothesis => simp [Stmt.blockParts, hypothesis]

theorem stmtOf_ne_endless (inside : Nat → List Stmt) (statement : Statement) :
    stmtOf inside statement ≠ .endless := by
  obtain ⟨kind, parent?, location?⟩ := statement
  cases kind <;> exact nofun

/-- The tree of a block has no end where a block inside its statements has none. -/
theorem endless_mem_unfold {depth block : Nat} :
    .endless ∈ Stmt.blockParts (recording.unfold (depth + 1) block) ↔
      ∃ statement ∈ (recording.block block).statements,
        ∃ inner ∈ (recording.statement statement).kind.inside,
          .endless ∈ Stmt.blockParts (recording.unfold depth inner) := by
  simp [mem_blockParts, unfold, mem_parts_stmtOf, (stmtOf_ne_endless _ _).symm]

/-- A block is in a block, with a statement between. -/
def Holds (recording : Recording) (outer inner : Nat) : Prop :=
  ∃ statement ∈ (recording.block outer).statements,
    inner ∈ (recording.statement statement).kind.inside

/-- What is inside a block, however deep, is under one of its statements. -/
theorem exists_under_of_holds {outer inner : Nat} (holds : TransGen recording.Holds outer inner) :
    ∃ statement ∈ (recording.block outer).statements, recording.Under inner statement := by
  induction holds with
  | single direct =>
      obtain ⟨statement, among, inside⟩ := direct
      exact ⟨statement, among, statement, .refl, inside⟩
  | tail _ step hypothesis =>
      obtain ⟨statement, among, owner, way, inside⟩ := hypothesis
      obtain ⟨next, among', inside'⟩ := step
      exact ⟨statement, among, next, way.tail ⟨_, inside, among'⟩, inside'⟩

/-- A block that is inside itself has a statement that is inside itself. -/
theorem tangled_of_holds {block : Nat} (circle : TransGen recording.Holds block block) :
    recording.Tangled := by
  obtain ⟨statement, among, owner, way, inside⟩ := exists_under_of_holds circle
  exact ⟨owner, .head' ⟨block, inside, among⟩ way⟩

/-- Going down from block to block, no block comes twice: a tree that is unfolded
as deep as there are blocks has ends everywhere. -/
theorem endless_not_mem_unfold (coherent : recording.Coherent) (untangled : ¬recording.Tangled)
    {depth block : Nat} (known : block < recording.blocks.size) (above : Finset Nat)
    (knownAbove : above ⊆ Finset.range recording.blocks.size)
    (inside : ∀ outer ∈ above, TransGen recording.Holds outer block)
    (deep : recording.blocks.size ≤ above.card + depth) :
    .endless ∉ Stmt.blockParts (recording.unfold depth block) := by
  induction depth generalizing block above with
  | zero =>
      have all : above = Finset.range recording.blocks.size :=
        Finset.eq_of_subset_of_card_le knownAbove (by simpa using deep)
      have member : block ∈ above := by simpa [all] using known
      exact (untangled (tangled_of_holds (inside block member))).elim
  | succ depth hypothesis =>
      rw [endless_mem_unfold]
      rintro ⟨statement, among, inner, within, endless⟩
      have step : recording.Holds block inner := ⟨statement, among, within⟩
      have fresh : block ∉ above := fun member =>
        untangled (tangled_of_holds (inside block member))
      refine hypothesis (lt_of_owner (coherent.owner within)) (insert block above) ?_ ?_ ?_ endless
      · exact Finset.insert_subset (by simpa using known) knownAbove
      · intro outer member
        rcases Finset.mem_insert.mp member with rfl | member
        · exact .single step
        · exact (inside outer member).tail step
      · rw [Finset.card_insert_of_notMem fresh]
        omega

/-- A statement that is inside itself has no end, however deep it is unfolded. -/
theorem endless_mem_of_circle {depth statement block : Nat}
    (circle : TransGen recording.Contains statement statement)
    (among : statement ∈ (recording.block block).statements) :
    .endless ∈ Stmt.blockParts (recording.unfold depth block) := by
  induction depth generalizing statement block with
  | zero => simp [unfold, Stmt.blockParts, Stmt.parts]
  | succ depth hypothesis =>
      obtain ⟨next, step, way⟩ := TransGen.head'_iff.mp circle
      obtain ⟨inner, inside, among'⟩ := step
      have circle' : TransGen recording.Contains next next :=
        TransGen.tail' way ⟨inner, inside, among'⟩
      exact endless_mem_unfold.mpr ⟨statement, among, inner, inside, hypothesis circle' among'⟩

/-- The blocks make trees exactly when no statement is inside itself. -/
theorem not_tangled_iff (coherent : recording.Coherent) :
    ¬recording.Tangled ↔
      ∀ block < recording.blocks.size, .endless ∉ Stmt.blockParts (recording.body block) := by
  constructor
  · intro untangled block known
    exact endless_not_mem_unfold coherent untangled known ∅ (Finset.empty_subset _) nofun (by simp)
  · rintro ends ⟨statement, circle⟩
    obtain ⟨owner, -, block, inside, among⟩ := TransGen.tail'_iff.mp circle
    exact ends block (lt_of_owner (coherent.owner inside)) (endless_mem_of_circle circle among)

theorem stmtOf_congr {inside other : Nat → List Stmt} {statement : Statement}
    (same : ∀ block ∈ statement.kind.inside, inside block = other block) :
    stmtOf inside statement = stmtOf other statement := by
  obtain ⟨kind, parent?, location?⟩ := statement
  cases kind with
  | branch condition onTrue onFalse open? =>
      simp [stmtOf, same onTrue (by simp [StatementKind.inside]),
        same onFalse (by simp [StatementKind.inside])]
  | loop vars source body schedule =>
      simp [stmtOf, same body (by simp [StatementKind.inside])]
  | _ => rfl

/-- A tree that has ends everywhere is the same when it is unfolded deeper. -/
theorem unfold_succ_eq {depth block : Nat}
    (ends : .endless ∉ Stmt.blockParts (recording.unfold depth block)) :
    recording.unfold (depth + 1) block = recording.unfold depth block := by
  induction depth generalizing block with
  | zero => simp [unfold, Stmt.blockParts, Stmt.parts] at ends
  | succ depth hypothesis =>
      rw [endless_mem_unfold] at ends
      rw [unfold, unfold]
      refine List.map_congr_left fun statement among => stmtOf_congr fun inner inside => ?_
      exact hypothesis fun endless => ends ⟨statement, among, inner, inside, endless⟩

/-- A tree without circles is unfolded as deep as there are blocks, and no deeper. -/
theorem unfold_eq_body (coherent : recording.Coherent) (untangled : ¬recording.Tangled)
    {block depth : Nat} (known : block < recording.blocks.size)
    (deep : recording.blocks.size ≤ depth) : recording.unfold depth block = recording.body block := by
  induction depth, deep using Nat.le_induction with
  | base => rfl
  | succ depth deep hypothesis =>
      rw [unfold_succ_eq, hypothesis]
      exact endless_not_mem_unfold coherent untangled known ∅ (Finset.empty_subset _) nofun
        (by simpa using deep)

/-- A block lists each of its statements once, and the statements that say that
they are in it. -/
structure Listed (recording : Recording) : Prop where
  once (block : Nat) : (recording.block block).statements.Nodup
  held {statement block : Nat} (parent : (recording.statement statement).parent? = some block) :
    statement ∈ (recording.block block).statements

theorem listed_empty : empty.Listed :=
  ⟨fun _ => List.nodup_nil, nofun⟩

variable {after : Recording}

/-- Neither a block nor what a statement is in has changed. -/
theorem Listed.congr (listed : recording.Listed)
    (blocks : ∀ id, (after.block id).statements = (recording.block id).statements)
    (parents : ∀ id, (after.statement id).parent? = (recording.statement id).parent?) :
    after.Listed where
  once block := by
    rw [blocks]
    exact listed.once block
  held {statement block} parent := by
    rw [blocks]
    exact listed.held (parents statement ▸ parent)

theorem Listed.brings {kind : StatementKind} (listed : recording.Listed)
    (brings : recording.Brings kind after) : after.Listed :=
  listed.congr brings.intact.statements fun id => by
    rcases brings.cases id with same | ⟨rfl, added⟩
    · rw [same]
    · rw [added, statement_of_le le_rfl]

theorem Listed.append (listed : recording.Listed) (coherent : recording.Coherent)
    {target member : Nat} (known : target < recording.blocks.size)
    (made : member < recording.statements.size)
    (free : (recording.statement member).parent? = none) :
    (recording.append target member).Listed where
  once block := by
    rw [block_append]
    split
    · refine (listed.once block).append (List.nodup_singleton member) ?_
      intro other among same
      have held := coherent.parent among
      rw [List.mem_singleton.mp same, free] at held
      cases held
    · exact listed.once block
  held {statement block} parent := by
    rw [block_append]
    by_cases same : statement = member
    · subst same
      rw [statement_append_self target made] at parent
      obtain rfl : target = block := Option.some.inj parent
      rw [if_pos ⟨rfl, known⟩]
      exact List.mem_append_right _ (List.mem_singleton_self _)
    · rw [statement_append_of_ne target same] at parent
      split
      · exact List.mem_append_left _ (listed.held parent)
      · exact listed.held parent

end Recording

namespace Stage

theorem Step.listed {one other : Stage} (step : Step False one other) (housed : one.Housed)
    (coherent : one.recording.Coherent) (listed : one.recording.Listed) :
    other.recording.Listed := by
  cases step with
  | @addsBlock recording _ _ label =>
      refine listed.congr (fun id => ?_) fun _ => rfl
      rw [Recording.block_addBlock]
      split
      · next new => rw [new, Recording.block_of_le le_rfl]
      · rfl
  | @adds recording _ _ _ added =>
      obtain ⟨kind, brings⟩ := added.brings recording
      exact listed.brings brings
  | retouches statement parents kinds =>
      exact listed.congr (fun _ => rfl) (Recording.parent?_modifyStatement statement parents)
  | @records recording guard rest floor block member scope made free =>
      have present := housed guard List.mem_cons_self
      rw [scope] at present
      exact listed.append coherent present made free
  | inserts allowed => exact allowed.elim
  | entersBranch => exact listed.congr (fun _ => rfl) (by simp)
  | entersBody => exact listed
  | opens allowed => exact allowed.elim
  | pops => exact listed.congr (by simp) (by simp)

/-- Whatever an operation does, blocks list what is in them. -/
theorem Turn.listed {resets : Prop} {one other : Stage} (turn : Turn resets one other)
    (housed : one.Housed) (coherent : one.recording.Coherent) (listed : one.recording.Listed) :
    other.recording.Listed := by
  cases turn with
  | goes steps =>
      suffices kept : other.Housed ∧ other.recording.Coherent ∧ other.recording.Listed from kept.2.2
      induction steps with
      | refl => exact ⟨housed, coherent, listed⟩
      | tail _ step hypothesis =>
          obtain ⟨housed, coherent, listed⟩ := hypothesis
          exact ⟨(step.houses coherent).housed housed, step.coherent coherent,
            step.listed housed coherent listed⟩
  | opens => exact listed
  | drops => exact listed
  | exits => exact listed.congr (by simp) (by simp)
  | places known made free => exact listed.append coherent known made free

end Stage

namespace Workbench

theorem Reached.listed {bench : Workbench} (reached : bench.Reached) :
    bench.shared.recording.Listed := by
  induction reached with
  | start _ empty =>
      rw [empty]
      exact Recording.listed_empty
  | @perform bench reached builder operation given hypothesis =>
      have given : operation.Given (bench.recorder builder).recording := given
      exact (Operation.turns given).listed (reached.housed.2 builder) reached.housed.1 hypothesis
  | meanwhile _ _ recording hypothesis =>
      rw [recording]
      exact hypothesis

end Workbench

/-- What was found ties a knot: a statement is put into a block that is inside of
it. -/
def Occasion.Ties (occasion : Occasion) : Prop :=
  (occasion.bench.recorder occasion.builder).Ties occasion.operation

namespace Workbench

theorem Past.tangled_iff {bench : Workbench} {occasions : List Occasion}
    (past : bench.Past occasions) :
    bench.shared.recording.Tangled ↔ ∃ occasion ∈ occasions, occasion.Ties := by
  induction past with
  | start _ empty =>
      rw [empty]
      refine ⟨?_, nofun⟩
      rintro ⟨statement, circle⟩
      obtain ⟨_, ⟨block, inside, _⟩, _⟩ := TransGen.head'_iff.mp circle
      cases inside
  | @perform occasions bench past builder operation given hypothesis =>
      have given : operation.Given (bench.recorder builder).recording := given
      obtain ⟨coherent, housed⟩ := past.reached.housed
      have tangles := Operation.tangles given (housed builder) coherent
      rw [List.exists_mem_cons_iff, ← hypothesis, or_comm]
      exact tangles
  | meanwhile _ _ recording hypothesis =>
      rw [recording]
      exact hypothesis

/-- How statements are in blocks, and blocks in statements. -/
structure Planted (bench : Workbench) (occasions : List Occasion) : Prop where
  /-- A statement is in the block that it says it is in, and in no other. -/
  placed (statement block : Nat) :
    statement ∈ (bench.shared.recording.block block).statements ↔
      (bench.shared.recording.statement statement).parent? = some block
  once (block : Nat) : (bench.shared.recording.block block).statements.Nodup
  /-- A statement is inside itself if one was put into a block inside of it, and
  only then. -/
  tangled : bench.shared.recording.Tangled ↔ ∃ occasion ∈ occasions, occasion.Ties
  /-- As long as there is none, a walk through any block comes to an end. -/
  walks : ¬bench.shared.recording.Tangled ↔
    ∀ block < bench.shared.recording.blocks.size,
      Stmt.blockWalk (bench.shared.recording.body block) =
        .ok ((Stmt.blockParts (bench.shared.recording.body block)).map Stmt.className)
  /-- Then the tree of a block is finite, for whatever goes through it: nothing in
  it is without an end, and going deeper shows nothing more. -/
  ends {block : Nat} (untangled : ¬bench.shared.recording.Tangled)
    (known : block < bench.shared.recording.blocks.size) :
    .endless ∉ Stmt.blockParts (bench.shared.recording.body block) ∧
      ∀ depth ≥ bench.shared.recording.blocks.size,
        bench.shared.recording.unfold depth block = bench.shared.recording.body block
  /-- The text of a block fails only where that of a statement in it fails. -/
  writes {block level : Nat} {rendering : Rendering} {fault : HostFault}
    (fails : Stmt.blockLines rendering level (bench.shared.recording.body block) = .error fault) :
    ∃ part ∈ Stmt.blockParts (bench.shared.recording.body block),
      part.text rendering = .error fault

/-- A statement is once in one block, and the blocks make trees unless a statement
was put into a block inside of it. -/
theorem Past.planted {bench : Workbench} {occasions : List Occasion} (past : bench.Past occasions) :
    bench.Planted occasions where
  placed statement block := ⟨past.reached.housed.1.parent, past.reached.listed.held⟩
  once := past.reached.listed.once
  tangled := past.tangled_iff
  walks := by
    rw [Recording.not_tangled_iff past.reached.housed.1]
    refine forall₂_congr fun block known => ?_
    rcases Stmt.blockWalk_eq (bench.shared.recording.body block) with ⟨ends, walk⟩ | ⟨endless, walk⟩
    · simp [ends, walk]
    · simp [endless, walk]
  ends untangled known :=
    ⟨(Recording.not_tangled_iff past.reached.housed.1).mp untangled _ known, fun _ =>
      Recording.unfold_eq_body past.reached.housed.1 untangled known⟩
  writes := Stmt.exists_text_of_blockLines _

end Workbench

namespace Knotted

/-- There are two conditionals, each with its two blocks. -/
def loose : Workbench :=
  let start : Workbench :=
    ⟨fun _ => .empty, ⟨⟨.empty, #[], #[], #[], #[]⟩, ⟨0, 0⟩, .empty, 0, #[]⟩⟩
  (start.after 0 (.newBranch (.int 0 1))).after 0 (.newBranch (.int 0 2))

/-- The second conditional is put into the first one, and then the first one into
the second. -/
def bench : Workbench :=
  (loose.after 0 (.insertInto (.block 0) (.statement 1))).after 0
    (.insertInto (.block 2) (.statement 0))

theorem exists_past : ∃ occasions, bench.Past occasions := by
  refine ⟨_, .perform (.perform (.perform (.perform (.start (fun _ => rfl) rfl) 0
    (.newBranch (.int 0 1)) ?_) 0 (.newBranch (.int 0 2)) ?_) 0
      (.insertInto (.block 0) (.statement 1)) ?_) 0 (.insertInto (.block 2) (.statement 0)) ?_⟩
  · intro value member
    rw [List.mem_singleton.mp member]
    trivial
  · intro value member
    rw [List.mem_singleton.mp member]
    trivial
  · intro value member
    rcases List.mem_pair.mp member with rfl | rfl
    · exact show 0 < 4 by decide
    · exact show 1 < 2 by decide
  · intro value member
    rcases List.mem_pair.mp member with rfl | rfl
    · exact show 2 < 4 by decide
    · exact show 0 < 2 by decide

theorem planted_knotted : ∃ occasions, bench.Past occasions ∧ bench.Planted occasions := by
  obtain ⟨occasions, past⟩ := exists_past
  exact ⟨occasions, past, past.planted⟩

/-- Both are accepted, and then each conditional is inside the other. -/
theorem inside_itself :
    (∃ occasions, bench.Past occasions) ∧
      bench.shared.recording.Contains 0 1 ∧ bench.shared.recording.Contains 1 0 ∧
      Stmt.blockWalk (bench.shared.recording.body 0) = .error .recursion :=
  ⟨exists_past, ⟨0, by decide, by decide⟩, ⟨2, by decide, by decide⟩, rfl⟩

end Knotted

end FieldKernel
