import FieldKernel.Proofs.Recording.Blocks
import FieldKernel.Session.State

/-!
# The open scopes of a definition

While a kernel is defined, the scopes that are open form a chain: every block is
inside the last statement of the block beneath it, down to the block of the
kernel.  A conditional keeps a mark of the branch that is open, which is away
from the stack of scopes; both always say the same.
-/

namespace FieldKernel

theorem Branch.label_injective : Function.Injective Branch.label := by
  intro one other same
  cases one <;> cases other <;> first | rfl | exact absurd same (by decide)

/-- A block is inside the last statement of another one. -/
def Recording.InLast (recording : Recording) (upper lower : Nat) : Prop :=
  ∃ last, recording.last? lower = some last ∧ upper ∈ recording.childBlocks last

/-- What was put last into a block is in it. -/
theorem Recording.mem_of_last? {recording : Recording} {block last : Nat}
    (found : recording.last? block = some last) : last ∈ (recording.block block).statements :=
  List.mem_of_getLast? found

theorem Recording.inLast_markOpen {recording : Recording} (owner : Nat) (mark : Option Branch)
    (upper lower : Nat) :
    (recording.markOpen owner mark).InLast upper lower ↔ recording.InLast upper lower := by
  simp [InLast, last?, childBlocks_eq]

theorem Recording.inLast_closed {recording : Recording} (scope : HostValue) (upper lower : Nat) :
    (recording.closed scope).InLast upper lower ↔ recording.InLast upper lower := by
  simp [InLast, last?, childBlocks_eq]

/-- In a chain everything but its end is related to what comes next. -/
theorem exists_next_of_isChain {relation : Nat → Nat → Prop} {chain : List Nat} {bottom : Nat}
    (isChain : chain.IsChain relation) (ends : chain.getLast? = some bottom) {item : Nat}
    (member : item ∈ chain) : item = bottom ∨ ∃ next ∈ chain.tail, relation item next := by
  induction isChain with
  | nil => cases member
  | singleton first =>
      left
      simp_all
  | @cons_cons first second rest related isChain hypothesis =>
      rcases List.mem_cons.mp member with rfl | member
      · exact .inr ⟨second, by simp, related⟩
      · rcases hypothesis (by simpa using ends) member with same | ⟨next, inside, related⟩
        · exact .inl same
        · exact .inr ⟨next, List.mem_cons_of_mem _ (by simpa using inside), related⟩

namespace Stage

variable {before : Recording} {bottom : Guard} {root : Nat}

/-- The open scopes are those of a definition, which began after something was
recorded before. -/
structure Nested (before : Recording) (bottom : Guard) (root : Nat) (stage : Stage)
    (blocks : List Nat) : Prop where
  coherent : stage.recording.Coherent
  floor : stage.floor = 1
  scopes : stage.stack.map Guard.scope = blocks.map HostValue.block
  bottom : stage.stack.getLast? = some bottom
  ends : blocks.getLast? = some root
  known : root < stage.recording.blocks.size
  outermost : (stage.recording.block root).owner? = none
  nodup : blocks.Nodup
  chain : blocks.IsChain stage.recording.InLast
  /-- The mark of a conditional is that of the branch whose scope is open. -/
  marks {statement block : Nat} {branch : Branch}
    (named : (stage.recording.statement statement).kind.blockOf? branch = some block)
    (shut : (before.statement statement).kind.open? = none) :
    (stage.recording.statement statement).kind.open? = some branch ↔ block ∈ blocks
  /-- A conditional that was left open before cannot be entered. -/
  stale {statement : Nat} (left : (before.statement statement).kind.open? ≠ none) :
    (stage.recording.statement statement).kind.open? ≠ none ∧
      ∀ block ∈ (stage.recording.statement statement).kind.inside, block ∉ blocks

namespace Nested

variable {recording : Recording} {stack : List Guard} {floor : Nat} {blocks : List Nat}
variable (nested : Nested before bottom root ⟨recording, stack, floor⟩ blocks)

include nested

theorem next {block : Nat} (member : block ∈ blocks) :
    block = root ∨ ∃ lower ∈ blocks.tail, recording.InLast block lower :=
  exists_next_of_isChain nested.chain nested.ends member

theorem ne_root {statement block : Nat}
    (inside : block ∈ (recording.statement statement).kind.inside) : block ≠ root := by
  rintro rfl
  have owned := nested.coherent.owner inside
  have none := nested.outermost
  rw [owned] at none
  cases none

theorem lt {block : Nat} (member : block ∈ blocks) : block < recording.blocks.size := by
  rcases nested.next member with rfl | ⟨lower, _, last, _, inside⟩
  · exact nested.known
  · rw [Recording.childBlocks_eq] at inside
    exact Recording.lt_of_owner (nested.coherent.owner inside)

/-- Scopes stay nested when the recording changes beside them. -/
theorem beside {after : Recording} (coherent : after.Coherent)
    (sizes : recording.blocks.size ≤ after.blocks.size)
    (owner : (after.block root).owner? = (recording.block root).owner?)
    (lasts : ∀ block ∈ blocks.tail, after.last? block = recording.last? block)
    (kinds : ∀ id, (after.statement id).kind.Alike (recording.statement id).kind ∨
      (after.statement id).kind.open? = none ∧ recording.statement id = ⟨.bare, none, none⟩ ∧
        ∀ block ∈ (after.statement id).kind.inside, block ∉ blocks) :
    Nested before bottom root ⟨after, stack, floor⟩ blocks where
  coherent := coherent
  floor := nested.floor
  scopes := nested.scopes
  bottom := nested.bottom
  ends := nested.ends
  known := nested.known.trans_le sizes
  outermost := owner.trans nested.outermost
  nodup := nested.nodup
  chain := by
    refine nested.chain.imp_of_mem_tail_imp fun upper lower _ among linked => ?_
    obtain ⟨last, found, inside⟩ := linked
    refine ⟨last, (lasts lower among).trans found, ?_⟩
    rw [Recording.childBlocks_eq] at inside ⊢
    rcases kinds last with alike | ⟨_, bare, _⟩
    · rw [alike.inside]
      exact inside
    · rw [bare] at inside
      cases inside
  marks {statement block branch} named shut := by
    rcases kinds statement with alike | ⟨closed, _, apart⟩
    · dsimp only at named ⊢
      rw [alike.blockOf?] at named
      rw [alike.open?]
      exact nested.marks named shut
    · have outside := apart block (StatementKind.mem_inside_of_blockOf? named)
      simp [closed, outside]
  stale {statement} left := by
    obtain ⟨opened, apart⟩ := nested.stale left
    rcases kinds statement with alike | ⟨_, bare, _⟩
    · exact ⟨alike.open? ▸ opened, alike.inside ▸ apart⟩
    · rw [bare] at opened
      exact (opened rfl).elim

/-- What was recorded last is a statement with a place. -/
theorem last_lt {block last : Nat} (found : recording.last? block = some last) :
    last < recording.statements.size :=
  Recording.lt_of_parent (nested.coherent.parent (Recording.mem_of_last? found))

/-- The block of the innermost scope is the first one. -/
theorem exists_cons {guard : Guard} {rest : List Guard} (stacked : stack = guard :: rest) :
    ∃ block others, blocks = block :: others ∧ guard.scope = .block block ∧
      rest.map Guard.scope = others.map HostValue.block := by
  have scopes := nested.scopes
  subst stacked
  cases blocks with
  | nil => cases scopes
  | cons block others =>
      obtain ⟨first, others'⟩ := List.cons.inj scopes
      exact ⟨block, others, rfl, first, others'⟩

/-- A block inside the last statement of the innermost block is not open: it
would be open on top of that block, which is open only once. -/
theorem fresh {block last inner : Nat} {others : List Nat} (cons : blocks = block :: others)
    (found : recording.last? block = some last)
    (inside : inner ∈ (recording.statement last).kind.inside) : inner ∉ blocks := by
  intro member
  rcases nested.next member with same | ⟨lower, among, last', found', inside'⟩
  · exact nested.ne_root inside same
  · rw [Recording.childBlocks_eq] at inside'
    have owned := nested.coherent.owner inside
    rw [nested.coherent.owner inside'] at owned
    obtain rfl : last' = last := Option.some.inj owned
    have parent := nested.coherent.parent (Recording.mem_of_last? found)
    rw [nested.coherent.parent (Recording.mem_of_last? found')] at parent
    obtain rfl : lower = block := Option.some.inj parent
    have nodup := nested.nodup
    subst cons
    exact (List.nodup_cons.mp nodup).1 among

end Nested

/-- A branch is entered: it gets its mark together with its scope. -/
theorem Nested.entersBranch {recording : Recording} {guard entered : Guard} {rest : List Guard}
    {floor block last inner : Nat} {branch : Branch} {blocks : List Nat}
    (nested : Nested before bottom root ⟨recording, guard :: rest, floor⟩ blocks)
    (scope : guard.scope = .block block) (found : recording.last? block = some last)
    (shut : (recording.statement last).kind.open? = none)
    (named : (recording.statement last).kind.blockOf? branch = some inner)
    (opened : entered.scope = .block inner) :
    Nested before bottom root
      ⟨recording.markOpen last (some branch), entered :: guard :: rest, floor⟩
      (inner :: blocks) := by
  obtain ⟨block', others, rfl, scope', _⟩ := nested.exists_cons rfl
  obtain rfl : block' = block := HostValue.block.inj (scope'.symm.trans scope)
  have inside := StatementKind.mem_inside_of_blockOf? named
  have outside := nested.fresh rfl found inside
  have marked : (recording.markOpen last (some branch)).statement last =
      { recording.statement last with
        kind := (recording.statement last).kind.marked (some branch) } :=
    Recording.statement_markOpen_self _ (nested.last_lt found)
  have others' {id : Nat} (other : id ≠ last) :
      (recording.markOpen last (some branch)).statement id = recording.statement id :=
    Recording.statement_markOpen_of_ne _ other
  have apart {id other : Nat} (different : id ≠ last)
      (inside' : other ∈ (recording.statement id).kind.inside) : other ≠ inner :=
    nested.coherent.apart different inside' inside
  constructor
  case coherent => exact nested.coherent.markOpen _ _
  case floor => exact nested.floor
  case scopes => simpa [opened] using nested.scopes
  case bottom => simpa using nested.bottom
  case ends => simpa using nested.ends
  case known => exact nested.known
  case outermost => exact nested.outermost
  case nodup => exact List.nodup_cons.mpr ⟨outside, nested.nodup⟩
  case chain =>
      refine List.isChain_cons_cons.mpr ⟨?_, nested.chain.imp fun upper lower =>
        (Recording.inLast_markOpen last _ upper lower).mpr⟩
      rw [Recording.inLast_markOpen]
      exact ⟨last, found, by rwa [Recording.childBlocks_eq]⟩
  case marks =>
      intro id other branch' named' shut'
      dsimp only at named' ⊢
      by_cases same : id = last
      · subst same
        rw [marked, StatementKind.blockOf?_marked] at named'
        rw [marked, StatementKind.open?_marked named]
        have closed := nested.marks named' shut'
        rw [shut] at closed
        have left : other ∉ block' :: others := fun member => nomatch closed.mpr member
        by_cases entering : branch = branch'
        · subst entering
          obtain rfl : inner = other := Option.some.inj (named.symm.trans named')
          simp
        · have different : other ≠ inner := by
            rintro rfl
            have labels := nested.coherent.label named
            rw [nested.coherent.label named'] at labels
            exact entering (Branch.label_injective labels.symm)
          constructor
          · intro equal
            exact (entering (Option.some.inj equal)).elim
          · intro member
            exact ((List.mem_cons.mp member).elim different left).elim
      · rw [others' same] at named' ⊢
        rw [nested.marks named' shut', List.mem_cons]
        have different := apart same (StatementKind.mem_inside_of_blockOf? named')
        simp [different]
  case stale =>
      intro id left
      obtain ⟨still, closed⟩ := nested.stale left
      have different : id ≠ last := by
        rintro rfl
        exact still shut
      dsimp only
      rw [others' different]
      refine ⟨still, fun other inside' member => ?_⟩
      exact (List.mem_cons.mp member).elim (apart different inside') (closed other inside')

/-- The body of a loop is entered. -/
theorem Nested.entersBody {recording : Recording} {guard entered : Guard} {rest : List Guard}
    {floor block last body : Nat} {blocks : List Nat}
    (nested : Nested before bottom root ⟨recording, guard :: rest, floor⟩ blocks)
    (scope : guard.scope = .block block) (found : recording.last? block = some last)
    (inside : (recording.statement last).kind.inside = [body])
    (opened : entered.scope = .block body) :
    Nested before bottom root ⟨recording, entered :: guard :: rest, floor⟩ (body :: blocks) := by
  obtain ⟨block', others, rfl, scope', _⟩ := nested.exists_cons rfl
  obtain rfl : block' = block := HostValue.block.inj (scope'.symm.trans scope)
  have member : body ∈ (recording.statement last).kind.inside := by simp [inside]
  have outside := nested.fresh rfl found member
  constructor
  case coherent => exact nested.coherent
  case floor => exact nested.floor
  case scopes => simpa [opened] using nested.scopes
  case bottom => simpa using nested.bottom
  case ends => simpa using nested.ends
  case known => exact nested.known
  case outermost => exact nested.outermost
  case nodup => exact List.nodup_cons.mpr ⟨outside, nested.nodup⟩
  case chain =>
      exact List.isChain_cons_cons.mpr
        ⟨⟨last, found, by rwa [Recording.childBlocks_eq]⟩, nested.chain⟩
  case marks =>
      intro id other branch named shut
      have different : id ≠ last := by
        rintro rfl
        rw [StatementKind.blockOf?_of_body inside] at named
        cases named
      have apart := nested.coherent.apart different
        (StatementKind.mem_inside_of_blockOf? named) member
      rw [nested.marks named shut, List.mem_cons]
      simp [apart]
  case stale =>
      intro id left
      obtain ⟨still, closed⟩ := nested.stale left
      have different : id ≠ last := by
        rintro rfl
        exact still (StatementKind.open?_of_body inside)
      refine ⟨still, fun other inside' among => ?_⟩
      exact (List.mem_cons.mp among).elim (nested.coherent.apart different inside' member)
        (closed other inside')

/-- Closing a scope takes the mark of its branch away; the body of a loop has
none. -/
theorem Nested.closed_eq {recording : Recording} {stack : List Guard} {floor block last : Nat}
    {blocks : List Nat} (nested : Nested before bottom root ⟨recording, stack, floor⟩ blocks)
    (member : block ∈ blocks) (inside : block ∈ (recording.statement last).kind.inside) :
    (∃ branch, (recording.statement last).kind.blockOf? branch = some block ∧
        (recording.statement last).kind.open? = some branch ∧
        recording.closed (.block block) = recording.markOpen last none) ∨
      (recording.statement last).kind.inside = [block] ∧
        recording.closed (.block block) = recording := by
  have owned := nested.coherent.owner inside
  cases kind : (recording.statement last).kind with
  | branch condition onTrue onFalse mark =>
      left
      rw [kind] at inside
      obtain ⟨branch, named⟩ := StatementKind.exists_blockOf? inside
      rw [← kind] at named
      have fresh : (before.statement last).kind.open? = none := by
        by_contra left
        exact (nested.stale left).2 block (kind ▸ inside) member
      have opened := (nested.marks named fresh).mpr member
      obtain rfl : mark = some branch := by simpa [kind, StatementKind.open?] using opened
      refine ⟨branch, kind ▸ named, rfl, ?_⟩
      simp [Recording.closed, Recording.owningBranch?, owned, kind,
        nested.coherent.label named]
  | loop vars source body schedule =>
      right
      rw [kind] at inside
      obtain rfl := List.mem_singleton.mp inside
      refine ⟨rfl, ?_⟩
      simp [Recording.closed, Recording.owningBranch?, owned, kind]
  | _ =>
      rw [kind] at inside
      cases inside

/-- The innermost scope is closed, if it is not the last one. -/
theorem Nested.pops {recording : Recording} {guard : Guard} {rest : List Guard} {floor : Nat}
    {blocks : List Nat} (nested : Nested before bottom root ⟨recording, guard :: rest, floor⟩ blocks)
    (above : floor < rest.length + 1) :
    Nested before bottom root ⟨recording.closed guard.scope, rest, floor⟩ blocks.tail := by
  obtain ⟨block, others, rfl, scope, scopes⟩ := nested.exists_cons rfl
  have lowest : floor = 1 := nested.floor
  obtain ⟨second, rest, rfl⟩ : ∃ second more, rest = second :: more :=
    List.exists_cons_of_length_pos (by omega)
  obtain ⟨lower, others, rfl⟩ : ∃ lower more, others = lower :: more := by
    cases others with
    | nil => cases scopes
    | cons lower more => exact ⟨lower, more, rfl⟩
  have coherent : recording.Coherent := nested.coherent
  obtain ⟨last, found, inside⟩ := (List.isChain_cons_cons.mp nested.chain).1
  rw [Recording.childBlocks_eq] at inside
  have outside := (List.nodup_cons.mp nested.nodup).1
  rw [scope]
  constructor
  case coherent => exact coherent.closed (.block block)
  case floor => exact nested.floor
  case scopes => exact scopes
  case bottom => simpa using nested.bottom
  case ends => simpa using nested.ends
  case known => simpa using nested.known
  case outermost => simpa using nested.outermost
  case nodup => exact (List.nodup_cons.mp nested.nodup).2
  case chain =>
      exact (List.isChain_cons_cons.mp nested.chain).2.imp fun upper lower =>
        (Recording.inLast_closed _ upper lower).mpr
  case marks =>
      intro id other branch named shut
      rw [Recording.blockOf?_closed] at named
      have marked := nested.marks named shut
      have inside' := StatementKind.mem_inside_of_blockOf? named
      by_cases same : id = last
      · subst same
        rcases nested.closed_eq (by simp) inside with ⟨closing, named', opened, closed⟩ | ⟨body, _⟩
        · have marked' := Recording.statement_markOpen_self none (nested.last_lt found)
          dsimp only
          rw [closed, marked', StatementKind.open?_marked named]
          rw [opened] at marked
          constructor
          · nofun
          · intro member
            obtain rfl : closing = branch :=
              Option.some.inj (marked.mpr (List.mem_cons_of_mem _ member))
            obtain rfl : block = other := Option.some.inj (named'.symm.trans named)
            exact (outside member).elim
        · rw [StatementKind.blockOf?_of_body body] at named
          cases named
      · have different := nested.coherent.apart same inside' inside
        dsimp only
        rw [coherent.statement_closed inside same, marked, List.mem_cons]
        simp [different]
  case stale =>
      intro id left
      obtain ⟨still, closed⟩ := nested.stale left
      have different : id ≠ last := by
        rintro rfl
        exact closed block inside (by simp)
      dsimp only
      rw [coherent.statement_closed inside different]
      exact ⟨still, fun other among member => closed other among (List.mem_cons_of_mem _ member)⟩

/-- What host code does in the way of a builder leaves the scopes nested. -/
theorem Nested.step {one other : Stage} (step : Stage.Step False one other) {blocks : List Nat}
    (nested : one.Nested before bottom root blocks) :
    ∃ others, other.Nested before bottom root others := by
  have coherent := step.coherent nested.coherent
  cases step with
  | addsBlock label =>
      refine ⟨blocks, nested.beside coherent (by simp) ?_ (fun block among => ?_) fun _ =>
        .inl (.refl _)⟩
      · rw [Recording.block_addBlock, if_neg nested.known.ne]
      · have old := nested.lt (List.mem_of_mem_tail among)
        rw [Recording.last?, Recording.block_addBlock, if_neg old.ne, Recording.last?]
  | @adds recording _ _ _ added =>
      obtain ⟨kind, brings⟩ := added.brings recording
      refine ⟨blocks, nested.beside coherent brings.extended.blocks_le ?_ (fun block among => ?_)
        fun id => ?_⟩
      · rw [brings.extended.block nested.known]
      · have old := nested.lt (List.mem_of_mem_tail among)
        rw [Recording.last?, brings.extended.block old, Recording.last?]
      · rcases brings.cases id with same | ⟨rfl, added⟩
        · exact .inl (same ▸ .refl _)
        · refine .inr ⟨added ▸ brings.shut, Recording.statement_of_le le_rfl, ?_⟩
          intro block inside member
          rw [added] at inside
          exact absurd (nested.lt member) (brings.new inside).not_gt
  | @retouches recording _ _ statement _ parents kinds =>
      exact ⟨blocks, nested.beside coherent le_rfl rfl (fun _ _ => rfl) fun id =>
        .inl (Recording.kind_modifyStatement statement kinds id)⟩
  | @records recording guard rest _ block member scope known free =>
      obtain ⟨block', others, rfl, scope', _⟩ := nested.exists_cons rfl
      obtain rfl : block' = block := HostValue.block.inj (scope'.symm.trans scope)
      refine ⟨_, nested.beside coherent (by simp) ?_ (fun block among => ?_) fun id => ?_⟩
      · rw [Recording.block_append]
        split <;> rfl
      · have different : block ≠ block' := by
          rintro rfl
          exact (List.nodup_cons.mp nested.nodup).1 among
        rw [Recording.last?, Recording.block_append_of_ne _ different, Recording.last?]
      · rw [Recording.kind_append]
        exact .inl (.refl _)
  | inserts allowed => exact allowed.elim
  | entersBranch scope found shut inside opened =>
      exact ⟨_, nested.entersBranch scope found shut inside opened⟩
  | entersBody scope found inside opened =>
      exact ⟨_, nested.entersBody scope found inside opened⟩
  | opens allowed => exact allowed.elim
  | pops above => exact ⟨_, nested.pops above⟩

theorem Nested.steps {one other : Stage} (steps : Stage.Steps False one other) {blocks : List Nat}
    (nested : one.Nested before bottom root blocks) :
    ∃ others, other.Nested before bottom root others := by
  induction steps with
  | refl => exact ⟨blocks, nested⟩
  | tail _ step hypothesis =>
      obtain ⟨others, nested⟩ := hypothesis
      exact nested.step step

end Stage

/-- What host code can come to inside a definition if it goes the way of the
builder.  An operation can fail; what it did before that is done. -/
inductive Recorder.Within (entered : Recorder) : Recorder → Prop where
  | start : Within entered entered
  | perform {recorder : Recorder} (within : Within entered recorder) (operation : Operation)
      (permitted : operation.Permitted False recorder) :
      Within entered (operation.perform.run.run recorder).2
  | meanwhile {recorder next : Recorder} (within : Within entered recorder)
      (same : next.stage = recorder.stage) : Within entered next

/-- The scopes of a definition that are open, as a row of blocks from the
innermost one to that of the kernel.  The definition began with one scope and
after something was recorded before. -/
structure Recorder.OpenScopes (recorder : Recorder) (before : Recording) (bottom : Guard)
    (root : Nat) (blocks : List Nat) : Prop where
  scopes : recorder.builder.stack.map Guard.scope = blocks.map HostValue.block
  bottom : recorder.builder.stack.getLast? = some bottom
  root : blocks.getLast? = some root
  distinct : blocks.Nodup
  chain : blocks.IsChain fun upper lower => ∃ last,
    recorder.recording.last? lower = some last ∧ upper ∈ recorder.recording.childBlocks last
  /-- A branch is open when its scope is, unless an earlier definition left the
  conditional with an open branch. -/
  marks {statement onTrue onFalse : Nat} {condition : HostValue} {mark : Option Branch}
    (kind : (recorder.recording.statement statement).kind = .branch condition onTrue onFalse mark)
    (shut : (before.statement statement).kind.open? = none) :
    (mark = some .onTrue ↔ onTrue ∈ blocks) ∧ (mark = some .onFalse ↔ onFalse ∈ blocks)

namespace Stage.Nested

variable {before : Recording} {root : Nat}

/-- The scope of the definition is opened for a block outside of anything. -/
theorem start {recording : Recording} {guard : Guard} (coherent : recording.Coherent)
    (known : root < recording.blocks.size) (outermost : (recording.block root).owner? = none)
    (scope : guard.scope = .block root) :
    Nested recording guard root ⟨recording, [guard], 1⟩ [root] := by
  have apart {statement block : Nat}
      (inside : block ∈ (recording.statement statement).kind.inside) : block ∉ [root] := by
    intro member
    have owned := coherent.owner inside
    rw [List.mem_singleton.mp member, outermost] at owned
    cases owned
  constructor
  case coherent => exact coherent
  case floor => rfl
  case scopes => simp [scope]
  case bottom => rfl
  case ends => rfl
  case known => exact known
  case outermost => exact outermost
  case nodup => exact List.nodup_singleton root
  case chain => exact .singleton root
  case marks =>
      intro statement block branch named shut
      simp [shut, apart (StatementKind.mem_inside_of_blockOf? named)]
  case stale => exact fun left => ⟨left, fun block inside => apart inside⟩

theorem openScopes {recorder : Recorder} {bottom : Guard} {blocks : List Nat}
    (nested : recorder.stage.Nested before bottom root blocks) :
    recorder.OpenScopes before bottom root blocks where
  scopes := nested.scopes
  bottom := nested.bottom
  root := nested.ends
  distinct := nested.nodup
  chain := nested.chain
  marks {statement onTrue onFalse condition mark} kind shut := by
    have marks {block : Nat} {branch : Branch}
        (named : (recorder.recording.statement statement).kind.blockOf? branch = some block) :
        mark = some branch ↔ block ∈ blocks := by
      have opened := nested.marks named shut
      rwa [show recorder.stage.recording = recorder.recording from rfl, kind] at opened
    exact ⟨marks (congrArg (StatementKind.blockOf? .onTrue) kind),
      marks (congrArg (StatementKind.blockOf? .onFalse) kind)⟩

end Stage.Nested

namespace Recorder.Within

variable {before entered recorder : Recorder} {root : Nat} {guard : Guard}

/-- From the start of a definition on the open scopes are nested in the block of
the kernel, whose scope is never closed, and a branch is open exactly when its
scope is. -/
theorem exists_openScopes (worked : before.Worked) (known : root < before.recording.blocks.size)
    (outermost : (before.recording.block root).owner? = none)
    (enters : (Record.enterRoot (.block root)).run.run before = (.ok guard, entered))
    (within : entered.Within recorder) :
    ∃ blocks, recorder.OpenScopes before.recording guard root blocks := by
  suffices nested : ∃ blocks, recorder.stage.Nested before.recording guard root blocks by
    obtain ⟨blocks, nested⟩ := nested
    exact ⟨blocks, nested.openScopes⟩
  induction within with
  | start =>
      have alone : before.builder.stack = [] := by
        by_contra inside
        rw [Record.enterRoot_refused inside] at enters
        cases enters
      obtain ⟨final, run, stage⟩ := Record.enterRoot_run (.block root) alone
      rw [run] at enters
      cases enters
      rw [stage]
      exact ⟨[root], .start worked.coherent known outermost rfl⟩
  | perform within operation permitted hypothesis =>
      obtain ⟨blocks, nested⟩ := hypothesis
      exact nested.steps (operation.moves permitted)
  | meanwhile _ same hypothesis =>
      rw [same]
      exact hypothesis

end Recorder.Within

namespace Branching

/-- The block of a kernel is made before its definition. -/
def before : Recorder :=
  ((Operation.newBlock "kernel").perform.run.run (Session.start.recorder .empty)).2

def entered : Recorder :=
  ((Record.enterRoot (.block 0)).run.run before).2

/-- The second branch of a conditional is entered; the first cannot be entered
inside it. -/
def inside : Recorder :=
  let conditional := ((Operation.beginIf (.int 0 1)).perform.run.run entered).2
  let branch := ((Operation.enterBranch .onFalse).perform.run.run conditional).2
  ((Operation.enterBranch .onTrue).perform.run.run branch).2

theorem openScopes_inside :
    before.Worked ∧ 0 < before.recording.blocks.size ∧
      (before.recording.block 0).owner? = none ∧
      (Record.enterRoot (.block 0)).run.run before = (.ok ⟨0, .block 0⟩, entered) ∧
      entered.Within inside ∧ inside.builder.depth = 2 ∧
      ∃ blocks, inside.OpenScopes before.recording ⟨0, .block 0⟩ 0 blocks := by
  have worked : before.Worked :=
    .perform (.start rfl) (.newBlock "kernel") fun _ => nofun
  have within : entered.Within inside :=
    ((Recorder.Within.start.perform (.beginIf (.int 0 1)) trivial).perform
      (.enterBranch .onFalse) trivial).perform (.enterBranch .onTrue) trivial
  have known : 0 < before.recording.blocks.size := by decide +kernel
  exact ⟨worked, known, rfl, rfl, within, by decide +kernel,
    Recorder.Within.exists_openScopes worked known rfl rfl within⟩

end Branching

end FieldKernel
