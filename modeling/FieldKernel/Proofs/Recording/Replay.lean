import FieldKernel.Proofs.Recording.Builders

/-!
# Recording a tree

Statements are recorded one after the other, and what is inside a conditional
or a loop is recorded in a scope of its own.  If that is done for a plan in a
new definition, the block of the definition shows the plan.
-/

namespace FieldKernel

/-- Plans have been recorded at the end of a block. -/
structure Recorder.Records (before after : Recorder) (block : Nat) (plans : List Plan)
    (ids loops : List Nat) : Prop where
  grows : before.recording.Grows after.recording block ids
  shown : after.recording.ShowsAll before.recording.blocks.size block ids plans loops
  becomes : before.Becomes after after.recording
    { before.builder with lastLoop? := loops.getLast?.or before.builder.lastLoop? }

namespace Recorder

variable {before middle after : Recorder} {block : Nat} {plans others : List Plan}
  {ids loops later more : List Nat}

theorem Records.inside {around : Nat} (records : before.Records after block plans ids loops)
    (now : before.In around) : after.In around :=
  records.becomes.inside now rfl rfl records.grows.blocks_le

theorem Records.append (known : block < before.recording.blocks.size)
    (first : before.Records middle block plans ids loops)
    (second : middle.Records after block others later more) :
    before.Records after block (plans ++ others) (ids ++ later) (loops ++ more) where
  grows := first.grows.trans second.grows
  shown := (first.shown.mono le_rfl (second.grows.spares known)).append
    (second.shown.mono first.grows.blocks_le ⟨fun _ _ => rfl, fun _ _ => rfl⟩)
  becomes := by
    have becomes := first.becomes.trans second.becomes
    rw [first.becomes.builder] at becomes
    rw [List.getLast?_append, Option.or_assoc]
    exact becomes

end Recorder

namespace Record

variable {before : Recorder} {block : Nat}

/-- What is recorded in a scope, which entering may mark and leaving unmarks. -/
theorem scoped_records (inside : before.In block) {enter : Record Guard} {entered : Recording}
    {child : Nat}
    (enters : Leads before enter fun guard after => guard.scope = .block child ∧
      before.Becomes after entered { before.builder with stack := guard :: before.builder.stack })
    (known : child < entered.blocks.size)
    (size : entered.blocks.size = before.recording.blocks.size) (close : Recording → Recording)
    (closes : ∀ (ids : List Nat) (state : Recorder), entered.Grows state.recording child ids →
      Leads state (closeBranch child) fun _ after =>
        state.Becomes after (close state.recording) state.builder)
    (grows : ∀ inner ids, entered.Grows inner child ids →
      before.recording.Grows (close inner) child ids)
    (spares : ∀ inner start, Recording.Spares start inner (close inner))
    {attempt : Record Unit} {plans : List Plan}
    (replays : ∀ state : Recorder, state.In child → state.groups = before.groups →
      state.layouts = before.layouts →
      Leads state attempt fun _ after => ∃ ids loops, state.Records after child plans ids loops) :
    Leads before
      (do
        let _ ← enter
        attempt
        let _ ← popScope)
      fun _ after => ∃ ids loops, before.Records after child plans ids loops := by
  refine enters.bind fun guard middle opened => ?_
  obtain ⟨scope, opened⟩ := opened
  have now : middle.In child := by
    refine ⟨⟨guard, before.builder.stack, by rw [opened.builder], scope⟩, ?_, ?_⟩
    · rw [opened.builder]
      exact inside.floor.trans (Nat.le_succ _)
    · rw [opened.recording]
      exact known
  refine (replays middle now (by rw [opened.objects]) (by rw [opened.objects])).bind
    fun _ inner recorded => ?_
  obtain ⟨ids, loops, records⟩ := recorded
  have grown := records.grows
  have shown := records.shown
  rw [opened.recording] at grown shown
  have stack : inner.builder.stack = guard :: before.builder.stack := by
    rw [records.becomes.builder, opened.builder]
  have floor : inner.builder.floor ≤ before.builder.stack.length := by
    rw [records.becomes.builder, opened.builder]
    exact inside.floor
  have leaves (state : Recorder) (same : state.recording = inner.recording) :
      Leads state (closeBranch child) fun _ after =>
        state.Becomes after (close inner.recording) state.builder := by
    rw [← same]
    exact closes ids state (same ▸ grown)
  refine (popScope_leads stack scope floor leaves).bind fun _ final popped => ?_
  have becomes := (opened.trans records.becomes).trans popped
  rw [records.becomes.builder, opened.builder] at becomes
  rw [size] at shown
  refine .pure ⟨ids, loops, ?_, ?_, ?_⟩
  · rw [popped.recording]
    exact grows inner.recording ids grown
  · rw [popped.recording]
    exact shown.mono le_rfl (spares _ _)
  · rw [popped.recording]
    exact becomes

/-- What is recorded in the scope of a branch. -/
theorem inBranch_records (inside : before.In block) (branch : Branch) {id onTrue onFalse : Nat}
    {condition : HostValue} (last : before.recording.last? block = some id)
    (closed : (before.recording.statement id).kind = .branch condition onTrue onFalse none)
    (made : id < before.recording.statements.size)
    (owner : (before.recording.block (branchBlock branch onTrue onFalse)).owner? = some id)
    (label : (before.recording.block (branchBlock branch onTrue onFalse)).label = branch.label)
    {attempt : Record Unit} {plans : List Plan}
    (replays : ∀ state : Recorder, state.In (branchBlock branch onTrue onFalse) →
      state.groups = before.groups → state.layouts = before.layouts →
      Leads state attempt fun _ after => ∃ ids loops,
        state.Records after (branchBlock branch onTrue onFalse) plans ids loops) :
    Leads before (inBranch branch attempt) fun _ after => ∃ ids loops,
      before.Records after (branchBlock branch onTrue onFalse) plans ids loops := by
  refine scoped_records inside (enterBranch_leads inside branch last closed)
    (Recording.lt_of_owner owner) rfl (fun inner => inner.markOpen id none) ?_
    (fun inner ids grows => grows.marked made (by rw [closed]; rfl))
    (fun inner start => inner.spares_markOpen start id) replays
  intro ids state grows
  have marked : (state.recording.statement id).kind =
      .branch condition onTrue onFalse (some branch) := by
    rw [grows.statement (by simpa using made), Recording.statement_markOpen_self _ made, closed]
    rfl
  refine closeBranch_leads ?_ ?_ marked
  · rw [grows.grown]
    exact owner
  · rw [grows.grown]
    exact label

/-- What is recorded in the scope of the body of a loop. -/
theorem inBody_records (inside : before.In block) {id body : Nat} {vars : List Variable}
    {source : LoopSource} {schedule : Schedule} (last : before.recording.last? block = some id)
    (loop : (before.recording.statement id).kind = .loop vars source body schedule)
    (made : id < before.recording.statements.size)
    (owner : (before.recording.block body).owner? = some id)
    {attempt : Record Unit} {plans : List Plan}
    (replays : ∀ state : Recorder, state.In body → state.groups = before.groups →
      state.layouts = before.layouts →
      Leads state attempt fun _ after => ∃ ids loops, state.Records after body plans ids loops) :
    Leads before (inBody attempt) fun _ after => ∃ ids loops,
      before.Records after body plans ids loops := by
  refine scoped_records inside (enterBody_leads inside last loop) (Recording.lt_of_owner owner) rfl
    (fun inner => inner) ?_ (fun inner ids grows => grows)
    (fun inner start => ⟨fun _ _ => rfl, fun _ _ => rfl⟩) replays
  intro ids state grows
  have owned : (state.recording.block body).owner? = some id := by
    rw [grows.grown]
    exact owner
  have looped : (state.recording.statement id).kind.isLoop := by
    rw [grows.statement made, loop]
    rfl
  exact closeBranch_leads_loop owned looped

/-- A statement without anything inside is recorded. -/
theorem records_leaf {after : Recorder} (inside : before.In block) {kind : StatementKind}
    {plan : Plan}
    (becomes : before.Becomes after ((before.recording.addStatement kind).2.append block
      before.recording.statements.size) before.builder)
    (shown : ∀ recording : Recording, recording.statement before.recording.statements.size =
      ⟨kind, some block, none⟩ → recording.Shows before.recording.blocks.size block
        before.recording.statements.size plan []) :
    ∃ ids loops, before.Records after block [plan] ids loops := by
  have adds := before.recording.adds_addStatement kind
  refine ⟨[before.recording.statements.size], [], ?_, ?_, ?_⟩
  · rw [becomes.recording]
    exact adds.grows inside.known
  · rw [becomes.recording]
    exact (shown _ adds.appended).one
  · rw [becomes.recording]
    exact becomes

end Record

namespace Plan

variable {before : Recorder} {block : Nat}

theorem alloca_records (inside : before.In block) (identifier : Identifier) (type : DataType) :
    Record.Leads before (alloca identifier type).replay fun _ after => ∃ ids loops,
      before.Records after block [alloca identifier type] ids loops := by
  have adds := before.recording.adds_addStatement (.alloca identifier type)
  rw [replay]
  refine (Record.addTo_leads adds).bind ?_
  rintro _ middle ⟨rfl, rfl⟩
  have later : Recorder.In
      { before with recording := (before.recording.addStatement (.alloca identifier type)).2 }
      block :=
    ⟨inside.scope, inside.floor, inside.known⟩
  refine (Record.insert_leads later (by rw [adds.statement]) adds.made).weaken
    fun _ after becomes => ?_
  rw [adds.statement] at becomes
  exact Record.records_leaf inside ⟨becomes.objects, becomes.builder⟩ fun _ => .alloca

/-- After a statement has been put at the end of a block, it is the last one. -/
theorem last?_appended {recording : Recording} {id target : Nat}
    (known : target < recording.blocks.size) :
    (recording.append target id).last? target = some id := by
  rw [Recording.last?, Recording.block_append_self _ known]
  simp

/-- The body of a loop is recorded after the loop. -/
theorem loop_records {middle : Recorder} (inside : before.In block) {vars : List Variable}
    {source : LoopSource} {plan : Plan} (plans : List Plan) {attempt : Record Unit}
    (becomes : before.Becomes middle
      ((before.recording.addLoop vars source).2.append block before.recording.statements.size)
      { before.builder with lastLoop? := some before.recording.statements.size })
    (replays : ∀ (state : Recorder) (child : Nat), state.In child → state.groups = before.groups →
      state.layouts = before.layouts →
      Record.Leads state attempt fun _ after => ∃ ids loops,
        state.Records after child plans ids loops)
    (shown : ∀ (recording : Recording) (ids loops : List Nat),
      recording.statement before.recording.statements.size =
          ⟨.loop vars source before.recording.blocks.size .empty, some block, none⟩ →
        recording.block before.recording.blocks.size =
          ⟨some before.recording.statements.size, "body", ids⟩ →
        recording.ShowsAll (before.recording.blocks.size + 1) before.recording.blocks.size ids
          plans loops →
        recording.Shows before.recording.blocks.size block before.recording.statements.size plan
          (before.recording.statements.size :: loops)) :
    Record.Leads middle (Record.inBody attempt) fun _ after => ∃ ids loops,
      before.Records after block [plan] ids loops := by
  have adds := before.recording.adds_addLoop vars source
  obtain ⟨body, size⟩ := before.recording.blocks_addLoop vars source
  have known := inside.known
  have begun : before.recording.Grows middle.recording block [before.recording.statements.size] := by
    rw [becomes.recording]
    exact adds.grows known
  have held : middle.recording.statement before.recording.statements.size =
      ⟨.loop vars source before.recording.blocks.size .empty, some block, none⟩ := by
    rw [becomes.recording]
    exact adds.appended
  have empty : middle.recording.block before.recording.blocks.size =
      ⟨some before.recording.statements.size, "body", []⟩ := by
    rw [becomes.recording, Recording.block_append_of_ne _ (by omega), body]
  have blocks : middle.recording.blocks.size = before.recording.blocks.size + 1 := by
    rw [becomes.recording, Recording.blocks_size_append, size]
  have last : middle.recording.last? block = some before.recording.statements.size := by
    rw [becomes.recording]
    exact last?_appended (known.trans_le adds.extended.blocks_le)
  have made := Recording.lt_of_parent (by rw [held])
  have recorded : Record.Leads middle (Record.inBody attempt) fun _ after => ∃ ids loops,
      middle.Records after before.recording.blocks.size plans ids loops := by
    refine Record.inBody_records (becomes.inside inside rfl rfl begun.blocks_le) last (by rw [held])
      made (by rw [empty]) fun state now groups layouts => ?_
    rw [becomes.objects] at groups layouts
    exact replays state _ now groups layouts
  refine recorded.weaken fun _ after holds => ?_
  obtain ⟨ids, loops, inner⟩ := holds
  have grown := inner.grows.grown
  rw [empty] at grown
  have same := inner.grows.statement made
  rw [held] at same
  have nested := inner.shown
  rw [blocks] at nested
  have all := becomes.trans inner.becomes
  rw [becomes.builder] at all
  refine ⟨[before.recording.statements.size], before.recording.statements.size :: loops,
    begun.inside inner.grows known le_rfl, (shown _ ids loops same grown nested).one, ?_⟩
  rw [List.getLast?_cons, Option.some_or]
  cases latest : loops.getLast? with
  | none =>
      rw [latest] at all
      exact all
  | some id =>
      rw [latest] at all
      exact all

/-- A conditional with empty branches has been put at the end of a block. -/
structure Branches (before after : Recording) (block : Nat) (condition : HostValue) : Prop where
  grows : before.Grows after block [before.statements.size]
  held : after.statement before.statements.size =
    ⟨.branch condition before.blocks.size (before.blocks.size + 1) none, some block, none⟩
  onTrue : after.block before.blocks.size = ⟨some before.statements.size, "true", []⟩
  onFalse : after.block (before.blocks.size + 1) = ⟨some before.statements.size, "false", []⟩
  blocks : after.blocks.size = before.blocks.size + 2
  last : after.last? block = some before.statements.size

theorem branches_added {recording : Recording} (condition : HostValue)
    (known : block < recording.blocks.size) :
    Branches recording ((recording.addBranch condition).2.append block recording.statements.size)
      block condition := by
  have adds := recording.adds_addBranch condition
  obtain ⟨emptyTrue, emptyFalse, size⟩ := recording.blocks_addBranch condition
  refine ⟨adds.grows known, adds.appended, ?_, ?_, ?_,
    last?_appended (known.trans_le adds.extended.blocks_le)⟩
  · rw [Recording.block_append_of_ne _ (by omega), emptyTrue]
    rfl
  · rw [Recording.block_append_of_ne _ (by omega), emptyFalse]
    rfl
  · rw [Recording.blocks_size_append, size]

/-- The two branches of a conditional are recorded one after the other. -/
theorem branch_shows {recording : Recording} {middle inner after : Recorder}
    {condition read : Expr} (loaded : Loaded condition read)
    (begun : Branches recording middle.recording block (.expr read))
    {truePlans falsePlans : List Plan}
    {trues falses trueLoops falseLoops : List Nat}
    (one : middle.Records inner recording.blocks.size truePlans trues trueLoops)
    (two : inner.Records after (recording.blocks.size + 1) falsePlans falses falseLoops) :
    after.recording.Shows recording.blocks.size block recording.statements.size
      (branch condition truePlans falsePlans) (trueLoops ++ falseLoops) := by
  have made := Recording.lt_of_parent (by rw [begun.held])
  have fewer := begun.blocks
  have more := one.grows.blocks_le
  have held := one.grows.statement made
  have kept := two.grows.statement (made.trans_le one.grows.statements_le)
  have grownTrue := one.grows.grown
  rw [begun.onTrue] at grownTrue
  have keptTrue : after.recording.block recording.blocks.size =
      inner.recording.block recording.blocks.size := two.grows.block (by omega) (by omega)
  have grownFalse := two.grows.grown
  rw [one.grows.block (by omega) (by omega), begun.onFalse] at grownFalse
  have spared : Recording.Spares middle.recording.blocks.size inner.recording after.recording :=
    two.grows.spares (by omega)
  have shownTrue := one.shown.mono le_rfl spared
  rw [begun.blocks] at shownTrue
  have shownFalse : after.recording.ShowsAll (recording.blocks.size + 2)
      (recording.blocks.size + 1) falses falsePlans falseLoops :=
    two.shown.mono (begun.blocks ▸ more) ⟨fun _ _ => rfl, fun _ _ => rfl⟩
  exact .branch loaded le_rfl (kept.trans (held.trans begun.held)) (keptTrue.trans grownTrue)
    grownFalse shownTrue shownFalse

/-- The branches of a conditional are recorded after it. -/
theorem branch_records {middle : Recorder} (inside : before.In block) {condition read : Expr}
    (loaded : Loaded condition read)
    (becomes : before.Becomes middle
      ((before.recording.addBranch (.expr read)).2.append block before.recording.statements.size)
      before.builder)
    {onTrue onFalse : Record Unit} {truePlans falsePlans : List Plan}
    (replaysTrue : ∀ (state : Recorder) (child : Nat), state.In child →
      state.groups = before.groups → state.layouts = before.layouts →
      Record.Leads state onTrue fun _ after => ∃ ids loops,
        state.Records after child truePlans ids loops)
    (replaysFalse : ∀ (state : Recorder) (child : Nat), state.In child →
      state.groups = before.groups → state.layouts = before.layouts →
      Record.Leads state onFalse fun _ after => ∃ ids loops,
        state.Records after child falsePlans ids loops) :
    Record.Leads middle
      (do
        Record.inBranch .onTrue onTrue
        Record.inBranch .onFalse onFalse)
      fun _ after => ∃ ids loops,
        before.Records after block [branch condition truePlans falsePlans] ids loops := by
  have known := inside.known
  have begun : Branches before.recording middle.recording block (.expr read) := by
    rw [becomes.recording]
    exact branches_added (.expr read) known
  have fewer := begun.blocks
  have made := Recording.lt_of_parent (by rw [begun.held])
  have now := becomes.inside inside rfl rfl begun.grows.blocks_le
  have first : Record.Leads middle (Record.inBranch .onTrue onTrue) fun _ after => ∃ ids loops,
      middle.Records after before.recording.blocks.size truePlans ids loops := by
    have closed := congrArg Statement.kind begun.held
    refine Record.inBranch_records now .onTrue begun.last closed made
      (by rw [Record.branchBlock, begun.onTrue]) (by rw [Record.branchBlock, begun.onTrue]; rfl)
      fun state within groups layouts => ?_
    rw [becomes.objects] at groups layouts
    exact replaysTrue state _ within groups layouts
  refine first.bind fun _ inner holds => ?_
  obtain ⟨trues, trueLoops, one⟩ := holds
  -- The conditional is still the last statement around, and no branch of it is open any more.
  have held := one.grows.statement made
  rw [begun.held] at held
  have last : inner.recording.last? block = some before.recording.statements.size := by
    rw [Recording.last?, one.grows.block (by omega) (by omega)]
    exact begun.last
  have empty : inner.recording.block (before.recording.blocks.size + 1) =
      ⟨some before.recording.statements.size, "false", []⟩ := by
    rw [one.grows.block (by omega) (by omega), begun.onFalse]
  have second : Record.Leads inner (Record.inBranch .onFalse onFalse) fun _ after =>
      ∃ ids loops,
        inner.Records after (before.recording.blocks.size + 1) falsePlans ids loops := by
    have closed := congrArg Statement.kind held
    refine Record.inBranch_records (one.inside now) .onFalse last closed
      (made.trans_le one.grows.statements_le) (by rw [Record.branchBlock, empty])
      (by rw [Record.branchBlock, empty]; rfl) fun state within groups layouts => ?_
    rw [one.becomes.objects, becomes.objects] at groups layouts
    exact replaysFalse state _ within groups layouts
  refine second.weaken fun _ after holds => ?_
  obtain ⟨falses, falseLoops, two⟩ := holds
  have all := (becomes.trans one.becomes).trans two.becomes
  rw [one.becomes.builder, becomes.builder] at all
  refine ⟨[before.recording.statements.size], trueLoops ++ falseLoops,
    (begun.grows.inside one.grows known le_rfl).inside two.grows known (Nat.le_succ _),
    (branch_shows loaded begun one two).one, ?_⟩
  rw [List.getLast?_append, Option.or_assoc]
  exact all

mutual

theorem replay_records (plan : Plan) {before : Recorder} {block : Nat} (inside : before.In block)
    (fits : plan.Fits before.groups before.layouts) :
    Record.Leads before plan.replay fun _ after => ∃ ids loops,
      before.Records after block [plan] ids loops := by
  cases plan with
  | alloca identifier type => exact alloca_records inside identifier type
  | assign target value =>
      rw [replay]
      refine (Record.assign_leads inside value fits).bind fun _ after ⟨read, loaded, becomes⟩ => ?_
      exact .pure (Record.records_leaf inside becomes fun _ => .assign loaded)
  | print value label =>
      rw [replay]
      refine (Record.print_leads inside value label).bind fun _ after ⟨read, loaded, becomes⟩ => ?_
      exact .pure (Record.records_leaf inside becomes fun _ => .print loaded)
  | branch condition onTrue onFalse =>
      rw [replay]
      rw [Fits] at fits
      refine (Record.beginIf_leads inside condition).bind fun _ middle holds => ?_
      obtain ⟨read, loaded, becomes⟩ := holds
      refine branch_records inside loaded becomes ?_ ?_
      · intro state child within groups layouts
        exact replayAll_records onTrue within (by rw [groups, layouts]; exact fits.1)
      · intro state child within groups layouts
        exact replayAll_records onFalse within (by rw [groups, layouts]; exact fits.2)
  | range var first last body =>
      rw [replay]
      rw [Fits] at fits
      refine (Record.beginRange_leads inside var first last).bind fun _ middle holds => ?_
      obtain ⟨readFirst, readLast, loadedFirst, loadedLast, becomes⟩ := holds
      refine loop_records inside body becomes ?_ ?_
      · intro state child within groups layouts
        exact replayAll_records body within (by rw [groups, layouts]; exact fits)
      · intro recording ids loops held block shown
        exact .range loadedFirst loadedLast le_rfl held block shown
  | elements indices vars field body =>
      rw [replay]
      rw [Fits] at fits
      obtain ⟨⟨lists, nonempty, matching⟩, fits⟩ := fits
      refine (Record.beginElements_leads inside lists nonempty matching).bind
        fun _ middle becomes => ?_
      refine loop_records inside body becomes ?_ ?_
      · intro state child within groups layouts
        exact replayAll_records body within (by rw [groups, layouts]; exact fits)
      · intro recording ids loops held block shown
        exact .elements le_rfl held block shown

theorem replayAll_records (plans : List Plan) {before : Recorder} {block : Nat}
    (inside : before.In block) (fit : AllFit before.groups before.layouts plans) :
    Record.Leads before (replayAll plans) fun _ after => ∃ ids loops,
      before.Records after block plans ids loops := by
  cases plans with
  | nil =>
      rw [replayAll]
      exact .pure ⟨[], [], .refl _ _, .nil, .refl _⟩
  | cons first rest =>
      rw [replayAll]
      rw [AllFit] at fit
      refine (replay_records first inside fit.1).bind fun _ middle ⟨ids, loops, one⟩ => ?_
      have fitRest : AllFit middle.groups middle.layouts rest := by
        rw [one.becomes.objects]
        exact fit.2
      refine (replayAll_records rest (one.inside inside) fitRest).weaken
        fun _ after ⟨later, more, two⟩ => ?_
      exact ⟨ids ++ later, loops ++ more, one.append inside.known two⟩

end

end Plan

/-- A definition has been recorded: the block that it was empty in shows the
plans, and its scope is the only one that is open. -/
structure Recorder.Defines (before after : Recorder) (block : Nat) (plans : List Plan) : Prop where
  /-- Each statement is in the block that lists it, no branch is open, and the
  loop that was recorded last is the last one in the order of the plans. -/
  shown : ∃ loops,
    after.recording.ShowsAll before.recording.blocks.size block
        (after.recording.block block).statements plans loops ∧
      after.builder.lastLoop? = loops.getLast?
  body : Plan.DescribeAll plans (after.recording.body block)
  owned {inner : Nat} (new : inner = block ∨ before.recording.blocks.size ≤ inner) :
    after.recording.Owned inner
  scope : ∃ guard, after.builder.stack = [guard] ∧ guard.scope = .block block
  /-- Nothing else has changed. -/
  grows : before.recording.Grows after.recording block (after.recording.block block).statements

theorem Record.enterRoot_leads {before : Recorder} (idle : before.builder.stack = [])
    (scope : HostValue) :
    Record.Leads before (Record.enterRoot scope) fun guard after => guard.scope = scope ∧
      before.Becomes after before.recording ⟨[guard], 1, none⟩ := by
  refine .get ?_
  simp only [idle, List.isEmpty_nil, if_true]
  refine (Record.createScope_leads scope).bind fun guard middle opened => ?_
  have pins : Record.Leads middle
      (Record.modifyBuilder fun builder => { builder with floor := 1, lastLoop? := none })
      fun _ after => before.Becomes after before.recording ⟨[guard], 1, none⟩ := by
    intro state same
    rw [same]
    refine ⟨opened.2.objects, ?_⟩
    dsimp only
    rw [opened.2.builder, idle]
  exact pins.bind fun _ after becomes => .pure ⟨opened.1, becomes⟩

/-- Plans that are recorded in a new definition are what the definition says,
whatever is inside of what. -/
theorem Plan.replayAll_defines {before : Recorder} {block : Nat} (plans : List Plan)
    (idle : before.builder.stack = []) (known : block < before.recording.blocks.size)
    (empty : (before.recording.block block).statements = [])
    (fit : AllFit before.groups before.layouts plans) :
    Record.Leads before
      (do
        let _ ← Record.enterRoot (.block block)
        replayAll plans)
      fun _ after => before.Defines after block plans := by
  refine (Record.enterRoot_leads idle (.block block)).bind fun guard middle holds => ?_
  obtain ⟨scope, opened⟩ := holds
  have inside : middle.In block := by
    refine ⟨⟨guard, [], by rw [opened.builder], scope⟩, ?_, ?_⟩
    · rw [opened.builder]
      exact le_rfl
    · rw [opened.recording]
      exact known
  have fits : AllFit middle.groups middle.layouts plans := by
    rw [opened.objects]
    exact fit
  refine (replayAll_records plans inside fits).weaken fun _ after holds => ?_
  obtain ⟨ids, loops, records⟩ := holds
  have grows := records.grows
  have shown := records.shown
  rw [opened.recording] at grows shown
  have listed : (after.recording.block block).statements = ids := by
    rw [grows.grown, empty, List.nil_append]
  rw [← listed] at grows shown
  refine ⟨⟨loops, shown, ?_⟩, ?_, ?_, ⟨guard, ?_, scope⟩, grows⟩
  · rw [records.becomes.builder, opened.builder, Option.or_none]
  · exact shown.body (known.trans_le grows.blocks_le) known
  · intro inner new
    apply grows.owned
    rcases new with same | unused
    · rw [same]
      exact Recording.owned_of_empty empty
    · exact Recording.owned_of_le unused
  · rw [records.becomes.builder, opened.builder]

namespace Nesting

def values : Field :=
  ⟨0, ⟨0, some "values"⟩, .i32⟩

def counter : Variable :=
  ⟨1, ⟨1, some "i"⟩⟩

def first : Expr :=
  .literal 2 (.int 0) .i32

def last : Expr :=
  .literal 3 (.int 3) .i32

/-- An element of the field. -/
def place : Expr :=
  .element 4 values [first]

/-- There is an empty block, and nothing is being recorded in it. -/
def idle : Recorder :=
  ⟨⟨⟨#[⟨none, "body", []⟩], #[]⟩, #[], #[], #[], #[]⟩, ⟨5, 2⟩, .empty, 0, #[]⟩

/-- Conditionals, each with a branch that stays empty, one right after the other,
and loops in them and behind them. -/
def plans : List Plan :=
  [.branch place [] [.print place .none],
    .branch first [.range counter first place [.alloca counter.identifier .i32]] [],
    .elements (.tuple 0 [.expr (.identifier counter)]) [counter] values [.assign place place]]

theorem plans_recorded :
    idle.builder.stack = [] ∧ 0 < idle.recording.blocks.size ∧
      (idle.recording.block 0).statements = [] ∧ Plan.AllFit idle.groups idle.layouts plans ∧
      Record.Leads idle
        (do
          let _ ← Record.enterRoot (.block 0)
          Plan.replayAll plans)
        fun _ after => idle.Defines after 0 plans := by
  have fit : Plan.AllFit idle.groups idle.layouts plans := by
    have lists : Lists idle.groups [counter] (.tuple 0 [.expr (.identifier counter)]) := .tuple 0
    have unplaced : idle.layouts.leafOf? values = none := rfl
    simp only [plans, Plan.AllFit, Plan.Fits, and_true, true_and]
    refine ⟨⟨lists, List.cons_ne_nil _ _, ?_⟩, rfl⟩
    intro tree leaf placed
    rw [unplaced] at placed
    cases placed
  exact ⟨rfl, Nat.zero_lt_one, rfl, fit,
    Plan.replayAll_defines plans rfl Nat.zero_lt_one rfl fit⟩

end Nesting

end FieldKernel
