import FieldKernel.Proofs.Lowering.Filled
import FieldKernel.Proofs.Lowering.KnownTypes
import FieldKernel.Proofs.Lowering.Targets
import FieldKernel.Proofs.Recording.Coherence

/-!
# Lowering a kernel again

An attempt to lower a kernel leaves the types behind that it filled in.  Whatever the
attempts before it were, the next one asks for the same types in the same order, so it
comes to what it would have come to at first.  There is one exception: a slot that is
asked to stay open is not open any more if it was filled later in an earlier attempt.
-/

namespace FieldKernel

namespace TypeSlots

/-- What is known of expressions that occur stays as it is. -/
def Keeps (occurs : Expr → Prop) (before after : TypeSlots) : Prop :=
  ∀ expr, occurs expr → before.typeOf expr ≠ .unknown → after.typeOf expr = before.typeOf expr

variable {occurs : Expr → Prop} {before middle after first slots : TypeSlots}

theorem Keeps.refl (slots : TypeSlots) : slots.Keeps occurs slots :=
  fun _ _ _ => rfl

theorem Keeps.trans (one : before.Keeps occurs middle) (two : middle.Keeps occurs after) :
    before.Keeps occurs after := by
  intro expr known settled
  have same := one expr known settled
  rw [two expr known (same ▸ settled), same]

variable (occurring : Occurring occurs)

include occurring

theorem keeps_of_resolve {expr : Expr} {type : DataType} (known : occurs expr)
    (resolved : before.resolve expr type = .ok after) : before.Keeps occurs after := by
  intro other knownOther settled
  by_cases same : other = expr
  · cases same
    rw [typeOf_of_resolve resolved, typeOf_of_resolved resolved settled]
  · exact typeOf_of_ne occurring known knownOther resolved same

theorem keeps_fill (slots : TypeSlots) (demands : List Demand)
    (known : ∀ demand ∈ demands, occurs demand.expr) :
    slots.Keeps occurs (slots.fill demands).2 := by
  induction demands generalizing slots with
  | nil => exact .refl slots
  | cons demand rest hypothesis =>
      rw [fill]
      cases resolved : slots.resolve demand.expr demand.type with
      | error error => exact .refl slots
      | ok filled =>
          apply (keeps_of_resolve occurring (known demand (by simp)) resolved).trans
          exact hypothesis filled fun one member => known one (by simp [member])

theorem keeps_fill_append {slots : TypeSlots} {given more : List Demand}
    (known : ∀ demand ∈ given ++ more, occurs demand.expr) :
    (slots.fill given).2.Keeps occurs (slots.fill (given ++ more)).2 := by
  rw [fill_append]
  rcases slots.fill given with ⟨error | _, filled⟩
  · exact .refl filled
  · exact keeps_fill occurring filled more fun one member =>
      known one (List.mem_append_right given member)

/-- Slots that are filled with one type hold what others hold that are filled with it, if
they did so before. -/
theorem Keeps.resolve (keeps : first.Keeps occurs slots) {expr : Expr} {type : DataType}
    {next filled : TypeSlots} (known : occurs expr) (resolved : first.resolve expr type = .ok next)
    (resolvedSlots : slots.resolve expr type = .ok filled) : next.Keeps occurs filled := by
  intro other knownOther settled
  by_cases same : other = expr
  · cases same
    rw [typeOf_of_resolve resolved, typeOf_of_resolve resolvedSlots]
  · rw [typeOf_of_ne occurring known knownOther resolved same] at settled ⊢
    rw [typeOf_of_ne occurring known knownOther resolvedSlots same]
    exact keeps other knownOther settled

/-- Slots can be filled with a type that they come to in the end. -/
theorem Keeps.fill (keeps : slots.Keeps occurs after) {expr : Expr} {type : DataType}
    {filled : TypeSlots} (known : occurs expr) (resolved : slots.resolve expr type = .ok filled)
    (asked : type ≠ .unknown → after.typeOf expr = type) : filled.Keeps occurs after := by
  intro other knownOther settled
  by_cases same : other = expr
  · cases same
    rw [typeOf_of_resolve resolved] at settled ⊢
    exact asked settled
  · rw [typeOf_of_ne occurring known knownOther resolved same] at settled ⊢
    exact keeps other knownOther settled

/-- Slots that hold what was known at first, and nothing but what all types come to, stay
such when the first of the types are filled in.  That ends as it would have at first, or at
an expression that is to stay open and has been filled. -/
theorem fill_between {given more : List Demand}
    (known : ∀ demand ∈ given ++ more, occurs demand.expr) (begins : first.Keeps occurs slots)
    (ends : slots.Keeps occurs (first.fill (given ++ more)).2) :
    (slots.fill given).2.Keeps occurs (first.fill (given ++ more)).2 ∧
      ((slots.fill given).1 = (first.fill given).1 ∨
        ∃ expr, occurs expr ∧ first.typeOf expr = .unknown ∧ slots.typeOf expr ≠ .unknown ∧
          (slots.fill given).1 = .error (slots.conflict expr .unknown)) := by
  -- Both are filled in step; the later slots are between the earlier and the last all the time.
  induction given generalizing first slots with
  | nil => exact ⟨ends, .inl rfl⟩
  | cons demand rest hypothesis =>
      obtain ⟨expr, type⟩ := demand
      have knownFirst : occurs expr := known ⟨expr, type⟩ (by simp)
      have knownRest : ∀ demand ∈ rest ++ more, occurs demand.expr := fun one member =>
        known one (List.mem_cons_of_mem _ member)
      simp only [List.cons_append, fill] at ends ⊢
      cases resolved : first.resolve expr type with
      | error error =>
          obtain ⟨settled, different, rfl⟩ := of_resolve_error resolved
          have same := begins expr knownFirst settled
          rw [resolved] at ends
          rw [resolve_of_known (same ▸ settled) (same ▸ different), conflict, conflict, same]
          exact ⟨ends, .inl rfl⟩
      | ok next =>
          rw [resolved] at ends
          have comes : type ≠ .unknown →
              (next.fill (rest ++ more)).2.typeOf expr = type := by
            intro settled
            have asked := typeOf_of_resolve resolved
            rw [keeps_fill occurring next _ knownRest expr knownFirst (asked ▸ settled), asked]
          by_cases held : slots.typeOf expr = .unknown ∨ slots.typeOf expr = type
          · obtain ⟨filled, resolvedSlots⟩ := exists_resolve held
            rw [resolvedSlots]
            obtain ⟨stays, same | ⟨other, knownOther, vacant, settled, fails⟩⟩ :=
              hypothesis knownRest (begins.resolve occurring knownFirst resolved resolvedSlots)
                (ends.fill occurring knownFirst resolvedSlots comes)
            · exact ⟨stays, .inl same⟩
            · -- The slot was not filled just now, because it was not filled at first either.
              have different : other ≠ expr := by
                rintro rfl
                rw [typeOf_of_resolve resolved] at vacant
                rw [typeOf_of_resolve resolvedSlots] at settled
                exact settled vacant
              rw [typeOf_of_ne occurring knownFirst knownOther resolved different] at vacant
              have still := typeOf_of_ne occurring knownFirst knownOther resolvedSlots different
              rw [conflict, still] at fails
              rw [still] at settled
              exact ⟨stays, .inr ⟨other, knownOther, vacant, settled, fails⟩⟩
          · obtain ⟨settled, different⟩ := not_or.mp held
            have vacant : type = .unknown := by
              by_contra settledType
              exact different ((ends expr knownFirst settled).symm.trans (comes settledType))
            have open? := (typeOf_before resolved).elim id fun same => same.trans vacant
            rw [resolve_of_known settled different, vacant]
            exact ⟨ends, .inr ⟨expr, knownFirst, open?, settled, rfl⟩⟩

/-- Slots that hold what was known at first, and nothing but what all types come to, can be
filled with known types exactly if that was possible at first. -/
theorem fill_known {demands : List Demand}
    (known : ∀ demand ∈ demands, occurs demand.expr ∧ demand.type ≠ .unknown)
    (begins : first.Keeps occurs slots) (ends : slots.Keeps occurs after)
    (comes : (first.fill demands).2.Keeps occurs after) :
    (slots.fill demands).1 = (first.fill demands).1 := by
  induction demands generalizing first slots with
  | nil => rfl
  | cons demand rest hypothesis =>
      obtain ⟨expr, type⟩ := demand
      obtain ⟨knownFirst, settledType⟩ := known ⟨expr, type⟩ (by simp)
      have knownRest : ∀ demand ∈ rest, occurs demand.expr ∧ demand.type ≠ .unknown :=
        fun one member => known one (List.mem_cons_of_mem _ member)
      simp only [fill] at comes ⊢
      cases resolved : first.resolve expr type with
      | error error =>
          obtain ⟨settled, different, rfl⟩ := of_resolve_error resolved
          have same := begins expr knownFirst settled
          rw [resolve_of_known (same ▸ settled) (same ▸ different), conflict, conflict, same]
      | ok next =>
          rw [resolved] at comes
          have asked := typeOf_of_resolve resolved
          have comesTo : after.typeOf expr = type := by
            have keeps := keeps_fill occurring next rest fun one member => (knownRest one member).1
            have kept := (keeps.trans comes) expr knownFirst (asked ▸ settledType)
            rw [kept, asked]
          have held : slots.typeOf expr = .unknown ∨ slots.typeOf expr = type := by
            by_cases open? : slots.typeOf expr = .unknown
            · exact .inl open?
            · exact .inr ((ends expr knownFirst open?).symm.trans comesTo)
          obtain ⟨filled, resolvedSlots⟩ := exists_resolve held
          rw [resolvedSlots]
          exact hypothesis knownRest (begins.resolve occurring knownFirst resolved resolvedSlots)
            (ends.fill occurring knownFirst resolvedSlots fun _ => comesTo) comes

end TypeSlots

namespace LoweringContext

variable (context : LoweringContext) (name : String) (body : List Stmt)

/-- An attempt to lower a kernel for a target. -/
def attempt (arch : Arch) (slots : TypeSlots) : Except Error KernelIR × TypeSlots :=
  KernelIR.ofBody name (.member arch) (context.on arch) body slots

/-- The slots after attempts to lower a kernel for some targets, whatever came of them. -/
def attempted (slots : TypeSlots) : List Arch → TypeSlots
  | [] => slots
  | arch :: rest => attempted (context.attempt name body arch slots).2 rest

/-- No type that is written down in a body, or placed for a field in it, is unknown. -/
def KnowsTypes : Prop :=
  context.Knows (Stmt.Occurs body)

/-- What an attempt to lower a kernel comes to with the slots that earlier attempts have left
behind, next to what it would have come to before them. -/
structure Repeats (slots later : TypeSlots) (arch : Arch) : Prop where
  /-- It ends in the same way, or at an expression whose slot was open at first and is asked
  to stay open, while an earlier attempt has filled it. -/
  ends : (context.attempt name body arch later).1 = (context.attempt name body arch slots).1 ∨
    ∃ expr, Stmt.Occurs body expr ∧ slots.typeOf expr = .unknown ∧ later.typeOf expr ≠ .unknown ∧
      (context.attempt name body arch later).1 =
        .error (later.conflict expr .unknown)
  /-- It always ends in the same way if all types are known that are written down. -/
  same : context.KnowsTypes body →
    (context.attempt name body arch later).1 = (context.attempt name body arch slots).1
  /-- A type that is known is not changed, neither by the earlier attempts nor by later ones. -/
  kept : slots.Keeps (Stmt.Occurs body) later ∧
    ∀ more, later.Keeps (Stmt.Occurs body) (context.attempted name body later more)
  /-- If it succeeds, each expression that was lowered has the type of its node. -/
  typed {ir : KernelIR} (success : (context.attempt name body arch later).1 = .ok ir) :
    ∃ ops final, (Lower.block (context.on arch) body).Yields (.start later) ops final ∧
      ir.nodes = final.nodes ∧ (context.attempt name body arch later).2 = final.slots ∧
      ∀ expr id, Stmt.Occurs body expr → final.lowered[expr.key]? = some id →
        ∃ node, ir.nodes[id]? = some node ∧
          (context.attempt name body arch later).2.typeOf expr = node.type

variable {context name body}

/-- Attempts keep what is known, and fill in nothing but what all types come to. -/
theorem attempted_between (occurring : Occurring (Stmt.Occurs body)) {all : List Demand}
    (known : ∀ demand ∈ all, Stmt.Occurs body demand.expr)
    (asked : ∀ arch, ∃ given more verdict, given ++ more = all ∧
      KernelIR.Demands (context.attempt name body arch) given verdict) {first slots : TypeSlots}
    (begins : first.Keeps (Stmt.Occurs body) slots)
    (ends : slots.Keeps (Stmt.Occurs body) (first.fill all).2) (earlier : List Arch) :
    slots.Keeps (Stmt.Occurs body) (context.attempted name body slots earlier) ∧
      (context.attempted name body slots earlier).Keeps (Stmt.Occurs body)
        (first.fill all).2 := by
  induction earlier generalizing slots with
  | nil => exact ⟨.refl slots, ends⟩
  | cons arch rest hypothesis =>
      obtain ⟨given, more, verdict, rfl, demands⟩ := asked arch
      have left : (context.attempt name body arch slots).2 = (slots.fill given).2 :=
        demands.slots slots
      have grows : slots.Keeps (Stmt.Occurs body) (slots.fill given).2 :=
        TypeSlots.keeps_fill occurring slots given fun demand member =>
          known demand (List.mem_append_left more member)
      have stays := (TypeSlots.fill_between occurring known begins ends).1
      rw [attempted, left]
      obtain ⟨keeps, among⟩ := hypothesis (begins.trans grows) stays
      exact ⟨grows.trans keeps, among⟩

/-- An attempt that succeeds leaves the types of the nodes in the slots. -/
theorem typed_of_attempt (occurring : Occurring (Stmt.Occurs body)) {arch : Arch}
    {slots : TypeSlots} {ir : KernelIR}
    (success : (context.attempt name body arch slots).1 = .ok ir) :
    ∃ ops final, (Lower.block (context.on arch) body).Yields (.start slots) ops final ∧
      ir.nodes = final.nodes ∧ (context.attempt name body arch slots).2 = final.slots ∧
      ∀ expr id, Stmt.Occurs body expr → final.lowered[expr.key]? = some id →
        ∃ node, ir.nodes[id]? = some node ∧
          (context.attempt name body arch slots).2.typeOf expr = node.type := by
  have filling : Lower.Fills (context.on arch) (Stmt.Occurs body) 0
      (Lower.block (context.on arch) body) _ :=
    Lower.block_fills occurring body fun root member => .root member
  have fills := filling (.start slots) (.start slots)
  obtain ⟨final, lowered, ends, left, -⟩ := KernelIR.exists_run success
  have left : (context.attempt name body arch slots).2 = final.slots := left
  have outcome : (Lower.block (context.on arch) body).run.run (.start slots) =
      (.ok ir.body, final) := lowered
  rw [outcome] at fills
  refine ⟨ir.body, final, lowered, ends.nodes, left, ?_⟩
  intro expr id known cached
  obtain ⟨inside, holds, -⟩ := fills.held known cached
  have found : final.nodes[id]? = some final.nodes[id] := Array.getElem?_eq_getElem inside
  refine ⟨final.nodes[id], by rw [ends.nodes, found], ?_⟩
  rw [left, holds, Lowering.typeOf, found]
  rfl

/-- An attempt ends as it would have ended at first if all types are known that are written
down, and the slots hold nothing but what all types come to. -/
theorem attempt_known (occurring : Occurring (Stmt.Occurs body)) (knows : context.KnowsTypes body)
    (arch : Arch) {first slots after : TypeSlots} (begins : first.Keeps (Stmt.Occurs body) slots)
    (ends : slots.Keeps (Stmt.Occurs body) after)
    (comes : (context.attempt name body arch first).2.Keeps (Stmt.Occurs body) after) :
    (context.attempt name body arch slots).1 = (context.attempt name body arch first).1 := by
  have knowsOn : (context.on arch).Knows (Stmt.Occurs body) := ⟨knows.written, knows.placed⟩
  obtain ⟨demands, verdict, known, demanded⟩ :=
    KernelIR.exists_demands_known occurring.operand knowsOn name (.member arch) body
      fun root member => .root member
  have answer (from? : TypeSlots) : (context.attempt name body arch from?).1 =
      (from?.fill demands).1.bind fun _ => verdict := KernelIR.Demands.answer demanded from?
  have left : (context.attempt name body arch first).2 = (first.fill demands).2 :=
    KernelIR.Demands.slots demanded first
  rw [left] at comes
  rw [answer, answer, TypeSlots.fill_known occurring known begins ends comes]

/-- Lowering a kernel can be repeated.  After any attempts for any targets, each broken off
anywhere or successful, the next one ends as it would have ended before them, except that an
expression whose slot is asked to stay open is refused if an earlier attempt has filled it;
that needs an unknown type to be written down.  A type that is known stays, and after success
the slots hold the types of the nodes. -/
theorem repeats (recorded : Stmt.Recorded body) (context : LoweringContext) (name : String)
    (slots : TypeSlots) (earlier : List Arch) (arch : Arch) :
    context.Repeats name body slots (context.attempted name body slots earlier) arch := by
  have occurring := recorded.occurring
  obtain ⟨all, known, asked⟩ :=
    KernelIR.exists_demands_on occurring.operand name context body fun root member => .root member
  have later := attempted_between occurring known asked (.refl slots)
    (TypeSlots.keeps_fill occurring slots all known) earlier
  generalize context.attempted name body slots earlier = reached at later
  have ends : (context.attempt name body arch reached).1 =
        (context.attempt name body arch slots).1 ∨
      ∃ expr, Stmt.Occurs body expr ∧ slots.typeOf expr = .unknown ∧
        reached.typeOf expr ≠ .unknown ∧
        (context.attempt name body arch reached).1 =
          .error (reached.conflict expr .unknown) := by
    obtain ⟨given, more, verdict, rfl, demands⟩ := asked arch
    have answer (from? : TypeSlots) : (context.attempt name body arch from?).1 =
        (from?.fill given).1.bind fun _ => verdict := KernelIR.Demands.answer demands from?
    rw [answer, answer]
    obtain ⟨-, same | ⟨expr, occurs, vacant, settled, fails⟩⟩ :=
      TypeSlots.fill_between occurring known later.1 later.2
    · exact .inl (by rw [same])
    · exact .inr ⟨expr, occurs, vacant, settled, by rw [fails]; rfl⟩
  refine ⟨ends, ?_, ⟨later.1, ?_⟩, typed_of_attempt occurring⟩
  · intro knows
    obtain ⟨given, more, verdict, rfl, demands⟩ := asked arch
    refine attempt_known occurring knows arch later.1 later.2 ?_
    have left : (context.attempt name body arch slots).2 = (slots.fill given).2 :=
      KernelIR.Demands.slots demands slots
    rw [left]
    exact TypeSlots.keeps_fill_append occurring known
  · intro more
    exact (attempted_between occurring known asked (.refl reached)
      (TypeSlots.keeps_fill occurring reached all known) more).1

end LoweringContext

namespace Reopened

def counter : Variable :=
  ⟨0, ⟨0, some "x"⟩⟩

def cast : Expr :=
  .cast 2 (.literal 1 (.int 1) .i32) .unknown

/-- A variable takes the type of its first value, which is cast to an unknown type, and then
that of a number. -/
def body : List Stmt :=
  [.alloca none counter.identifier .unknown, .assign none (.identifier counter) cast,
    .assign none (.identifier counter) (.literal 3 (.int 5) .i32)]

def other : Variable :=
  ⟨4, ⟨1, some "y"⟩⟩

/-- A variable takes the type of a number at once. -/
def plain : List Stmt :=
  [.alloca none other.identifier .unknown,
    .assign none (.identifier other) (.literal 5 (.int 5) .i32)]

theorem exists_recorder : ∃ recorder held, Recorder.Reached recorder held ∧
    recorder.recording.body 0 = body ∧ recorder.recording.body 1 = plain := by
  have start : Recorder.Reached ⟨⟨.empty, #[], #[], #[], #[]⟩, ⟨0, 0⟩, .empty, 0, #[]⟩ [] :=
    .start rfl rfl rfl
  have first := start.step (.newBlock "kernel a") (.block 0) (by simp [Operation.values]) rfl
  have scope := first.step (.enterRoot (.block 0)) (.guard 0 0 (.block 0))
    (by simp [Operation.values, HostValue.exprs]) rfl
  have declared := scope.step (.alloca (some "x")) (.expr (.identifier counter))
    (by simp [Operation.values]) rfl
  have made := declared.step (.build (.cast (.int 0 1) (.text 0 "unknown"))) (.expr cast)
    (by simp [Operation.values, Building.values, HostValue.exprs]) (by cbv)
  have opened := made.step (.assign (.expr (.identifier counter)) (.expr cast)) (.statement 1)
    (by simp [Operation.values, HostValue.exprs]) rfl
  have filled := opened.step (.assign (.expr (.identifier counter)) (.int 0 5)) (.statement 2)
    (by simp [Operation.values, HostValue.exprs]) rfl
  have ended := filled.step .exitRoot (.block 0) (by simp [Operation.values]) rfl
  have second := ended.step (.newBlock "kernel b") (.block 1) (by simp [Operation.values]) rfl
  have inner := second.step (.enterRoot (.block 1)) (.guard 0 1 (.block 1))
    (by simp [Operation.values, HostValue.exprs]) rfl
  have again := inner.step (.alloca (some "y")) (.expr (.identifier other))
    (by simp [Operation.values]) rfl
  have counts := again.step (.assign (.expr (.identifier other)) (.int 0 5)) (.statement 4)
    (by simp [Operation.values, HostValue.exprs]) rfl
  exact ⟨_, _, counts, rfl, rfl⟩

theorem recorded : Stmt.Recorded body := by
  obtain ⟨recorder, held, reached, same, -⟩ := exists_recorder
  exact ⟨recorder, held, 0, reached, same⟩

theorem recorded_plain : Stmt.Recorded plain := by
  obtain ⟨recorder, held, reached, -, same⟩ := exists_recorder
  exact ⟨recorder, held, 1, reached, same⟩

def context : LoweringContext :=
  ⟨.x86, [], ⟨.empty, #[], #[], #[], #[]⟩, ∅⟩

theorem knowsTypes_plain : context.KnowsTypes plain := by
  have among {expr : Expr} (occurs : Stmt.Occurs plain expr) :
      expr ∈ [.identifier other, .literal 5 (.int 5) .i32] :=
    Expr.Within.mem (by simp [plain, Stmt.blockRoots, Stmt.roots]) (by simp [Expr.operands]) occurs
  refine ⟨?_, ?_⟩
  · intro expr type occurs spelled
    rcases List.mem_pair.mp (among occurs) with rfl | rfl
    · cases spelled
    · cases spelled
      exact (by decide)
  · intro field leaf occurs
    simpa using among occurs

theorem repeats_plain :
    Stmt.Recorded plain ∧ context.KnowsTypes plain ∧
      (context.attempt "b" plain .x86 .empty).1.isOk ∧
      (context.attempt "b" plain .x86 (context.attempted "b" plain .empty [.gpu, .x86])).1 =
        (context.attempt "b" plain .x86 .empty).1 :=
  ⟨recorded_plain, knowsTypes_plain, by decide +kernel,
    (LoweringContext.repeats recorded_plain context "b" .empty [.gpu, .x86] .x86).same
      knowsTypes_plain⟩

/-- Whether the variable is refused an unknown type. -/
def refuses : Except Error KernelIR → Bool
  | .error (.type (.resolved text .i32 .unknown)) => text = "x"
  | _ => false

/-- A kernel that can be lowered for either target can be lowered only once. -/
theorem refused_again :
    Stmt.Recorded body ∧ (context.attempt "a" body .gpu .empty).1.isOk ∧
      (context.attempt "a" body .x86 .empty).1.isOk ∧
      refuses (context.attempt "a" body .x86 (context.attempted "a" body .empty [.gpu])).1 ∧
      (context.attempt "a" body .x86 (context.attempted "a" body .empty [.gpu])).1 ≠
        (context.attempt "a" body .x86 .empty).1 := by
  have refused : refuses
      (context.attempt "a" body .x86 (context.attempted "a" body .empty [.gpu])).1 := by
    decide +kernel
  refine ⟨recorded, by decide +kernel, by decide +kernel, refused, ?_⟩
  intro same
  rw [same] at refused
  revert refused
  decide +kernel

end Reopened

end FieldKernel
