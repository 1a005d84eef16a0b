import FieldKernel.Proofs.Recording.Plans
import FieldKernel.Proofs.Triples

/-!
# What a builder does

Each operation of a builder succeeds from the states that it is meant for.  The
recording and the builder that it leads to are said here; of what is shared
else, nothing changes but the numbers that are given out and the log.
-/

namespace FieldKernel

namespace Record

variable {α β : Type} {before : Recorder} {after : α → Recorder → Prop}

/-- From a state an attempt succeeds and ends as described. -/
def Leads (before : Recorder) (attempt : Record α) (after : α → Recorder → Prop) : Prop :=
  Ensures (· = before) attempt after fun _ _ => False

namespace Leads

theorem bind {attempt : Record α} {next : α → Record β} {later : β → Recorder → Prop}
    (first : Leads before attempt after)
    (second : ∀ result middle, after result middle → Leads middle (next result) later) :
    Leads before (attempt >>= next) later :=
  Ensures.bind first fun result middle holds => second result middle holds middle rfl

theorem pure {result : α} (holds : after result before) : Leads before (pure result) after :=
  Ensures.pure fun _ same => same ▸ holds

theorem get {next : Recorder → Record α} (leads : Leads before (next before) after) :
    Leads before (get >>= next) after :=
  Ensures.get fun _ same => same ▸ leads

theorem weaken {attempt : Record α} {weaker : α → Recorder → Prop}
    (leads : Leads before attempt after) (ends : ∀ result state, after result state →
      weaker result state) : Leads before attempt weaker :=
  Ensures.weaken leads (fun _ same => same) ends

/-- What follows on a question goes on with the answer. -/
theorem ask {question : Ask α} {result : α} {next : α → Record β} {later : β → Recorder → Prop}
    (answered : question before.toObjects = .ok result) (leads : Leads before (next result) later) :
    Leads before (liftM question >>= next) later := by
  have asked : Leads before (liftM question) fun answer middle =>
      answer = result ∧ middle = before := by
    intro state same
    have run : (liftM question : Record α).run.run before =
        (question before.toObjects, before) := rfl
    rw [same, run, answered]
    exact ⟨rfl, rfl⟩
  refine asked.bind ?_
  rintro _ _ ⟨rfl, rfl⟩
  exact leads

end Leads

end Record

/-- A recorder has another recording and another builder; numbers and the log
aside, all else is the same. -/
structure Recorder.Becomes (before after : Recorder) (recording : Recording) (builder : Builder) :
    Prop where
  objects : after.toObjects = { before.toObjects with recording := recording }
  builder : after.builder = builder

namespace Recorder.Becomes

variable {before middle after : Recorder} {first later : Recording} {builder next : Builder}

theorem refl (recorder : Recorder) : recorder.Becomes recorder recorder.recording recorder.builder :=
  ⟨rfl, rfl⟩

theorem recording (becomes : before.Becomes after later next) : after.recording = later := by
  rw [becomes.objects]

theorem trans (one : before.Becomes middle first builder)
    (two : middle.Becomes after later next) : before.Becomes after later next :=
  ⟨by rw [two.objects, one.objects], two.builder⟩

end Recorder.Becomes

/-- A builder records in a block. -/
structure Recorder.In (recorder : Recorder) (block : Nat) : Prop where
  scope : ∃ guard rest, recorder.builder.stack = guard :: rest ∧ guard.scope = .block block
  floor : recorder.builder.floor ≤ recorder.builder.depth
  known : block < recorder.recording.blocks.size

theorem Recorder.Becomes.inside {before after : Recorder} {recording : Recording}
    {builder : Builder} {block : Nat} (becomes : before.Becomes after recording builder)
    (inside : before.In block) (stack : builder.stack = before.builder.stack)
    (floor : builder.floor = before.builder.floor)
    (blocks : before.recording.blocks.size ≤ after.recording.blocks.size) : after.In block := by
  constructor
  · rw [becomes.builder, stack]
    exact inside.scope
  · rw [becomes.builder, Builder.depth, stack, floor]
    exact inside.floor
  · exact inside.known.trans_le blocks

namespace Record

variable {before : Recorder} {block : Nat}

theorem valueExpr_leads (value : Expr) :
    Leads before (build (Build.valueExpr (.expr value))) fun read after =>
      Loaded value read ∧ before.Becomes after before.recording before.builder := by
  intro state same
  rw [same]
  cases value with
  | element key field indices => exact ⟨.place _ ⟨key, field, indices⟩, rfl, rfl⟩
  | _ => exact ⟨.other rfl, rfl, rfl⟩

theorem currentScope_leads (inside : before.In block) :
    Leads before currentScope fun scope after => scope = .block block ∧ after = before := by
  obtain ⟨guard, rest, stack, scope⟩ := inside.scope
  refine .get ?_
  rw [stack]
  exact .pure ⟨scope, rfl⟩

/-- A statement that is in no block is put into the current one. -/
theorem insert_leads (inside : before.In block) {id : Nat}
    (free : (before.recording.statement id).parent? = none)
    (known : id < before.recording.statements.size) :
    Leads before (insert (.statement id)) fun _ after =>
      before.Becomes after (before.recording.append block id)
        { before.builder with
          lastLoop? := if (before.recording.statement id).kind.isLoop then some id
            else before.builder.lastLoop? } := by
  have kind : ((before.recording.append block id).statement id).kind =
      (before.recording.statement id).kind := by
    rw [Recording.statement_append_self block known]
  refine (currentScope_leads inside).bind ?_
  rintro _ middle ⟨rfl, same⟩
  rw [same]
  have put : Leads before (insertInto (.block block) (.statement id)) fun _ after =>
      after = { before with recording := before.recording.append block id } := by
    refine .ask rfl (.ask rfl (.get ?_))
    simp only [free, Option.isSome_none, Bool.false_eq_true, if_false]
    exact Ensures.modify fun _ same => by rw [same]
  refine put.bind fun _ middle same => ?_
  rw [same]
  refine .ask rfl (.get ?_)
  dsimp only
  rw [kind]
  cases shape : (before.recording.statement id).kind with
  | loop vars source body schedule =>
      exact Ensures.modify fun _ same => by
        rw [same]
        exact ⟨rfl, rfl⟩
  | _ => exact .pure ⟨rfl, rfl⟩

theorem addTo_leads {kind : StatementKind} {addition : Recording → Nat × Recording}
    (adds : before.recording.Adds kind (addition before.recording)) :
    Leads before (addTo addition) fun id after =>
      id = before.recording.statements.size ∧
        after = { before with recording := (addition before.recording).2 } := by
  intro state same
  rw [same]
  exact ⟨adds.number, rfl⟩

/-- What is recorded from a state that differs only in numbers and the log. -/
theorem record_leads {state : Recorder}
    (alike : before.Becomes state before.recording before.builder) (inside : before.In block)
    {kind : StatementKind} {addition : Recording → Nat × Recording}
    (adds : before.recording.Adds kind (addition before.recording)) :
    Leads state (record addition) fun _ after =>
      before.Becomes after
        ((addition before.recording).2.append block before.recording.statements.size)
        { before.builder with
          lastLoop? := if kind.isLoop then some before.recording.statements.size
            else before.builder.lastLoop? } := by
  have now : state.In block :=
    ⟨alike.builder ▸ inside.scope, alike.builder ▸ inside.floor, alike.recording ▸ inside.known⟩
  rw [← alike.recording] at adds ⊢
  rw [← alike.builder]
  refine (currentScope_leads now).bind fun _ middle same => ?_
  rw [same.2]
  refine (addTo_leads adds).bind ?_
  rintro _ after ⟨rfl, rfl⟩
  have later : Recorder.In { state with recording := (addition state.recording).2 } block :=
    ⟨now.scope, now.floor, now.known.trans_le adds.extended.blocks_le⟩
  refine (insert_leads later (by rw [adds.statement]) adds.made).bind fun _ final becomes => ?_
  rw [adds.statement] at becomes
  exact .pure ⟨becomes.objects.trans (by rw [alike.objects]), becomes.builder⟩

theorem assign_leads (inside : before.In block) {target : Expr} (value : Expr)
    (isLvalue : target.isLvalue) :
    Leads before (assign (.expr target) (.expr value)) fun _ after => ∃ read, Loaded value read ∧
      before.Becomes after
        ((before.recording.addStatement (.assign target read)).2.append block
          before.recording.statements.size) before.builder := by
  have assignable : assignable (.expr target) before.toObjects = .ok target := by
    rw [Record.assignable]
    simp only [isLvalue, if_true]
    rfl
  refine .ask assignable ?_
  refine (valueExpr_leads value).bind fun read middle holds => ?_
  obtain ⟨loaded, alike⟩ := holds
  have recorded : Leads middle (record (·.addStatement (.assign target read))) _ :=
    record_leads alike inside (before.recording.adds_addStatement (.assign target read))
  exact recorded.weaken fun _ _ becomes => ⟨read, loaded, becomes⟩

theorem print_leads (inside : before.In block) (value : Expr) (label : HostValue) :
    Leads before (print (.expr value) label) fun _ after => ∃ read, Loaded value read ∧
      before.Becomes after
        ((before.recording.addStatement (.print (.expr read) label)).2.append block
          before.recording.statements.size) before.builder := by
  refine (valueExpr_leads value).bind fun read middle holds => ?_
  obtain ⟨loaded, alike⟩ := holds
  have recorded : Leads middle (record (·.addStatement (.print (.expr read) label))) _ :=
    record_leads alike inside (before.recording.adds_addStatement (.print (.expr read) label))
  exact recorded.weaken fun _ _ becomes => ⟨read, loaded, becomes⟩

theorem beginIf_leads (inside : before.In block) (condition : Expr) :
    Leads before (beginIf (.expr condition)) fun _ after => ∃ read, Loaded condition read ∧
      before.Becomes after
        ((before.recording.addBranch (.expr read)).2.append block
          before.recording.statements.size) before.builder := by
  refine (valueExpr_leads condition).bind fun read middle holds => ?_
  obtain ⟨loaded, alike⟩ := holds
  have recorded : Leads middle (record (·.addBranch (.expr read))) _ :=
    record_leads alike inside (before.recording.adds_addBranch (.expr read))
  exact recorded.weaken fun _ _ becomes => ⟨read, loaded, becomes⟩

theorem beginRange_leads (inside : before.In block) (var : Variable) (first last : Expr) :
    Leads before (beginRange (.expr (.identifier var)) (.expr first) (.expr last)) fun _ after =>
      ∃ readFirst readLast, Loaded first readFirst ∧ Loaded last readLast ∧
        before.Becomes after
          ((before.recording.addLoop [var] (.range readFirst readLast)).2.append block
            before.recording.statements.size)
          { before.builder with lastLoop? := some before.recording.statements.size } := by
  refine (valueExpr_leads first).bind fun readFirst middle holds => ?_
  obtain ⟨loadedFirst, alike⟩ := holds
  refine (valueExpr_leads last).bind fun readLast later holds => ?_
  obtain ⟨loadedLast, same⟩ := holds
  rw [alike.recording, alike.builder] at same
  have recorded : Leads later (record (·.addLoop [var] (.range readFirst readLast))) _ :=
    record_leads (alike.trans same) inside
      (before.recording.adds_addLoop [var] (.range readFirst readLast))
  have named : loopVariables [.expr (.identifier var)] later.toObjects = .ok [var] := rfl
  refine .ask named ?_
  exact recorded.weaken fun _ _ becomes => ⟨readFirst, readLast, loadedFirst, loadedLast, becomes⟩

theorem build_run {α : Type} (attempt : Build α) :
    (build attempt).run.run before =
      (((attempt.run before.toObjects).run.run before.supply).1,
        { before with supply := ((attempt.run before.toObjects).run.run before.supply).2 }) :=
  rfl

/-- The members of a row of variables are expressions already. -/
theorem mapM_expr (vars : List Variable) (objects : Objects) (supply : Supply) :
    (((vars.map fun var => HostValue.expr (.identifier var)).mapM Build.expr).run objects).run.run
      supply = (.ok (vars.map .identifier), supply) := by
  induction vars with
  | nil => rfl
  | cons first rest hypothesis =>
      rw [List.map_cons, List.mapM_cons]
      have taken : ((Build.expr (.expr (.identifier first))).run objects).run.run supply =
          (.ok (.identifier first), supply) := rfl
      simp only [ReaderT.run_bind, run_run_bind, taken, hypothesis]
      rfl

theorem group_leads {vars : List Variable} {indices : HostValue}
    (lists : Lists before.groups vars indices) :
    Leads before (build (Build.group indices)) fun members after =>
      members = vars.map .identifier ∧
        before.Becomes after before.recording before.builder := by
  have run : ((Build.group indices).run before.toObjects).run.run before.supply =
      (.ok (vars.map .identifier), before.supply) := by
    cases lists with
    | list id => exact mapM_expr vars before.toObjects before.supply
    | tuple id => exact mapM_expr vars before.toObjects before.supply
    | group id held =>
        have members : before.toObjects.group id = vars.map .identifier := by
          rw [Objects.group, held]
          rfl
        rw [← members]
        rfl
  intro state same
  rw [same, build_run, run]
  exact ⟨rfl, rfl, rfl⟩

theorem loopVariables_eq (vars : List Variable) (objects : Objects) :
    loopVariables ((vars.map Expr.identifier).map .expr) objects = .ok vars := by
  induction vars with
  | nil => rfl
  | cons first rest hypothesis =>
      have unfolded : loopVariables (((first :: rest).map Expr.identifier).map .expr) objects =
          loopVariables ((rest.map Expr.identifier).map .expr) objects >>= fun vars =>
            .ok (first :: vars) := by
        simp only [loopVariables, List.map_cons, List.mapM_cons]
        rfl
      rw [unfolded, hypothesis]
      rfl

theorem beginElements_leads (inside : before.In block) {indices : HostValue}
    {vars : List Variable} {field : Field} (lists : Lists before.groups vars indices)
    (nonempty : vars ≠ [])
    (matching : ∀ tree leaf, before.layouts.leafOf? field = some (tree, leaf) →
      leaf.lineage.axes.length = vars.length) :
    Leads before (beginElements indices (.expr (.field field))) fun _ after =>
      before.Becomes after
        ((before.recording.addLoop vars (.elements field)).2.append block
          before.recording.statements.size)
        { before.builder with lastLoop? := some before.recording.statements.size } := by
  refine (group_leads lists).bind fun members middle holds => ?_
  obtain ⟨rfl, alike⟩ := holds
  have recorded : Leads middle (record (·.addLoop vars (.elements field))) _ :=
    record_leads alike inside (before.recording.adds_addLoop vars (.elements field))
  have full : (vars.map Expr.identifier).isEmpty = false := by
    simpa using nonempty
  simp only [full, Bool.false_eq_true, if_false]
  have found : loopField (.expr (.field field)) middle.toObjects = .ok field := rfl
  refine .ask found (.ask (loopVariables_eq vars middle.toObjects) (.get ?_))
  rw [alike.objects]
  split
  · exact recorded
  · next tree leaf placed =>
    have agrees : ¬ leaf.lineage.axes.length ≠ (vars.map Expr.identifier).length := by
      rw [List.length_map, matching tree leaf placed]
      exact fun different => different rfl
    simp only [agrees, if_false]
    exact recorded

theorem createScope_leads (scope : HostValue) :
    Leads before (createScope scope) fun guard after => guard.scope = scope ∧
      before.Becomes after before.recording
        { before.builder with stack := guard :: before.builder.stack } := by
  intro state same
  rw [same]
  exact ⟨rfl, rfl, rfl⟩

theorem last?_leads (inside : before.In block) :
    Leads before last? fun found after =>
      found = (block, before.recording.last? block) ∧ after = before := by
  refine (currentScope_leads inside).bind fun scope middle same => ?_
  rw [same.1, same.2]
  exact .ask rfl (.get (.pure ⟨rfl, rfl⟩))

/-- The block of a branch of a conditional. -/
def branchBlock (branch : Branch) (onTrue onFalse : Nat) : Nat :=
  match branch with
  | .onTrue => onTrue
  | .onFalse => onFalse

theorem enterBranch_leads (inside : before.In block) (branch : Branch) {id onTrue onFalse : Nat}
    {condition : HostValue} (last : before.recording.last? block = some id)
    (closed : (before.recording.statement id).kind = .branch condition onTrue onFalse none) :
    Leads before (enterBranch branch) fun guard after =>
      guard.scope = .block (branchBlock branch onTrue onFalse) ∧
        before.Becomes after (before.recording.markOpen id (some branch))
          { before.builder with stack := guard :: before.builder.stack } := by
  refine (last?_leads inside).bind fun found middle same => ?_
  rw [same.1, same.2]
  refine .get ?_
  simp only [last, Option.map_some, closed]
  have marks : Leads before (modifyRecording (·.markOpen id (some branch))) fun _ after =>
      before.Becomes after (before.recording.markOpen id (some branch)) before.builder := by
    intro state same
    rw [same]
    exact ⟨rfl, rfl⟩
  refine marks.bind fun _ middle marked => ?_
  refine (createScope_leads _).weaken fun guard after opened => ⟨opened.1, ?_⟩
  have becomes := marked.trans opened.2
  rw [marked.recording, marked.builder] at becomes
  exact becomes

theorem enterBody_leads (inside : before.In block) {id body : Nat} {vars : List Variable}
    {source : LoopSource} {schedule : Schedule} (last : before.recording.last? block = some id)
    (loop : (before.recording.statement id).kind = .loop vars source body schedule) :
    Leads before enterBody fun guard after => guard.scope = .block body ∧
      before.Becomes after before.recording
        { before.builder with stack := guard :: before.builder.stack } := by
  refine (last?_leads inside).bind fun found middle same => ?_
  rw [same.1, same.2]
  refine .get ?_
  simp only [last, Option.map_some, loop]
  exact createScope_leads (.block body)

theorem closeBranch_leads {child id : Nat} (owner : (before.recording.block child).owner? = some id)
    {branch : Branch} (label : (before.recording.block child).label = branch.label)
    {condition : HostValue} {onTrue onFalse : Nat}
    (marked : (before.recording.statement id).kind =
      .branch condition onTrue onFalse (some branch)) :
    Leads before (closeBranch child) fun _ after =>
      before.Becomes after (before.recording.markOpen id none) before.builder := by
  refine .get ?_
  simp only [Recording.owningBranch?, owner, marked, label, if_true]
  intro state same
  rw [same]
  exact ⟨rfl, rfl⟩

theorem closeBranch_leads_loop {child id : Nat}
    (owner : (before.recording.block child).owner? = some id)
    (loop : (before.recording.statement id).kind.isLoop) :
    Leads before (closeBranch child) fun _ after =>
      before.Becomes after before.recording before.builder := by
  refine .get ?_
  cases shape : (before.recording.statement id).kind with
  | loop =>
      simp only [Recording.owningBranch?, owner, shape]
      exact .pure (.refl before)
  | _ =>
      rw [shape] at loop
      cases loop

theorem popScope_leads {guard : Guard} {rest : List Guard} {child : Nat}
    (stack : before.builder.stack = guard :: rest) (scope : guard.scope = .block child)
    (floor : before.builder.floor ≤ rest.length) {recording : Recording}
    (closes : ∀ state : Recorder, state.recording = before.recording →
      Leads state (closeBranch child) fun _ after =>
        state.Becomes after recording state.builder) :
    Leads before popScope fun _ after =>
      before.Becomes after recording { before.builder with stack := rest } := by
  refine .get ?_
  simp only [stack]
  have above : ¬ (guard :: rest).length ≤ before.builder.floor := by
    simp only [List.length_cons]
    omega
  simp only [above, if_false]
  have drops : Leads before (modifyBuilder fun builder => { builder with stack := rest })
      fun _ after => before.Becomes after before.recording { before.builder with stack := rest } := by
    intro state same
    rw [same]
    exact ⟨rfl, rfl⟩
  refine drops.bind fun _ middle dropped => ?_
  have asked : Ask.block guard.scope "owner" middle.toObjects = .ok child := by
    rw [scope]
    rfl
  refine .ask asked ?_
  refine (closes middle dropped.recording).bind fun _ later closed => ?_
  have becomes := dropped.trans closed
  rw [dropped.builder] at becomes
  intro state same
  rw [same]
  exact ⟨becomes.objects, becomes.builder⟩

end Record

end FieldKernel
