import FieldKernel.Proofs.Recording.Targets

/-!
# Guards on a stack of scopes

Every scope that is opened gets a number that none has had before.  An operation
opens one scope or closes one, drops them all, or leaves them alone.  A scope is
therefore never found on other scopes than those that it was opened on, however
often others are opened and closed above it.
-/

namespace FieldKernel

namespace Recorder

variable {before middle after : Recorder}

/-- Scopes are left alone, and no number is used up. -/
structure Level (before after : Recorder) : Prop where
  stack : after.builder.stack = before.builder.stack
  floor : after.builder.floor = before.builder.floor
  next : after.nextGuard = before.nextGuard

/-- A scope is opened on those that there are, with the next number. -/
structure Opened (before : Recorder) (guard : Guard) (after : Recorder) : Prop where
  number : guard.id = before.nextGuard
  stack : after.builder.stack = guard :: before.builder.stack
  floor : after.builder.floor = before.builder.floor
  next : after.nextGuard = before.nextGuard + 1

/-- The innermost scope is closed; it is not one that is fixed. -/
structure Closed (before : Recorder) (guard : Guard) (after : Recorder) : Prop where
  stack : before.builder.stack = guard :: after.builder.stack
  above : before.builder.floor < before.builder.stack.length
  floor : after.builder.floor = before.builder.floor
  next : after.nextGuard = before.nextGuard

/-- What an operation does to scopes. -/
inductive Scopes (before after : Recorder) : Prop where
  | level (level : before.Level after)
  | opens (guard : Guard) (opened : before.Opened guard after)
  | closes (guard : Guard) (closed : before.Closed guard after)
  | drops (stack : after.builder.stack = []) (floor : after.builder.floor = 0)
      (next : after.nextGuard = before.nextGuard)
  /-- The scope of a definition is opened. -/
  | founds (guard : Guard) (number : guard.id = before.nextGuard)
      (stack : after.builder.stack = [guard]) (floor : after.builder.floor = 1)
      (next : after.nextGuard = before.nextGuard + 1)

theorem Level.refl (recorder : Recorder) : recorder.Level recorder :=
  ⟨rfl, rfl, rfl⟩

theorem Level.trans (first : before.Level middle) (second : middle.Level after) :
    before.Level after :=
  ⟨second.stack.trans first.stack, second.floor.trans first.floor, second.next.trans first.next⟩

theorem Level.opened {guard : Guard} (first : before.Level middle)
    (second : middle.Opened guard after) : before.Opened guard after where
  number := second.number.trans first.next
  stack := by rw [second.stack, first.stack]
  floor := second.floor.trans first.floor
  next := by rw [second.next, first.next]

end Recorder

namespace Record

variable {α β : Type} {recorder : Recorder}

/-- An attempt leaves scopes alone. -/
abbrev Levels (attempt : Record α) : Prop :=
  Relates Recorder.Level attempt

/-- An attempt opens the scope that it answers with, and leaves scopes alone if it
fails. -/
def Opens (attempt : Record Guard) : Prop :=
  ∀ recorder, Ensures (· = recorder) attempt (fun guard => recorder.Opened guard)
    fun _ => recorder.Level

section Rules

theorem Levels.bind {attempt : Record α} {next : α → Record β} (one : Levels attempt)
    (two : ∀ result, Levels (next result)) : Levels (attempt >>= next) :=
  Relates.bind one two id .trans

theorem levels_pure (result : α) : Levels (pure result) :=
  fun recorder => .refl recorder

theorem levels_throw (error : Error) : Levels (throw error : Record α) :=
  fun recorder => .refl recorder

theorem levels_thrown {error : Error} {next : α → Record β} :
    Levels ((MonadExcept.throw error : Record α) >>= next) :=
  fun recorder => .refl recorder

theorem levels_build (attempt : Build α) : Levels (build attempt) :=
  fun _ => ⟨rfl, rfl, rfl⟩

theorem levels_ask (question : Ask α) : Levels (liftM question : Record α) :=
  fun recorder => .refl recorder

theorem levels_report (message : Except HostFault String) : Levels (report message) :=
  fun _ => ⟨rfl, rfl, rfl⟩

theorem levels_modifyRecording (change : Recording → Recording) :
    Levels (modifyRecording change) :=
  fun _ => ⟨rfl, rfl, rfl⟩

theorem levels_addTo (addition : Recording → Nat × Recording) : Levels (addTo addition) :=
  fun _ => ⟨rfl, rfl, rfl⟩

theorem Levels.opens {attempt : Record α} {next : α → Record Guard} (one : Levels attempt)
    (two : ∀ result, Opens (next result)) : Opens (attempt >>= next) := by
  rintro recorder _ rfl
  rename_i recorder
  have level := one recorder
  rw [run_run_bind]
  revert level
  rcases attempt.run.run recorder with ⟨error | result, middle⟩
  · exact id
  · intro level
    have ends := two result middle middle rfl
    revert ends
    dsimp only
    rcases (next result).run.run middle with ⟨error | guard, final⟩
    · exact fun ends => level.trans ends
    · exact fun ends => level.opened ends

theorem Opens.get {next : Recorder → Record Guard} (opens : ∀ state, Opens (next state)) :
    Opens (get >>= next) :=
  fun recorder state starts => opens state recorder state starts

theorem Levels.fails {attempt : Record Guard} (levels : Levels attempt)
    (fails : ∀ recorder, ∃ error final, attempt.run.run recorder = (.error error, final)) :
    Opens attempt := by
  rintro recorder _ rfl
  rename_i recorder
  obtain ⟨error, final, run⟩ := fails recorder
  have level := levels recorder
  rw [run] at level ⊢
  exact level

end Rules

section Scopes

theorem levels_currentScope : Levels currentScope := by
  refine .get fun state => ?_
  split
  · exact levels_pure _
  · exact levels_throw _

theorem levels_last? : Levels last? :=
  levels_currentScope.bind fun _ => (levels_ask _).bind fun _ => .get fun _ => levels_pure _

theorem createScope_opens (scope : HostValue) : Opens (createScope scope) := by
  rintro recorder _ rfl
  exact ⟨rfl, rfl, rfl, rfl⟩

theorem levels_closeBranch (block : Nat) : Levels (closeBranch block) := by
  intro recorder
  rw [closeBranch_run]
  exact ⟨rfl, rfl, rfl⟩

/-- The innermost scope is closed, or it is one that is fixed and nothing is done. -/
theorem popScope_cases (recorder : Recorder) :
    (recorder.builder.stack.length ≤ recorder.builder.floor ∨ recorder.builder.stack = []) ∧
        (popScope.run.run recorder).2 = recorder ∨
      ∃ guard, recorder.Closed guard (popScope.run.run recorder).2 := by
  rw [popScope, run_get_bind]
  cases scopes : recorder.builder.stack with
  | nil => exact .inl ⟨.inr rfl, rfl⟩
  | cons guard rest =>
      dsimp only
      by_cases low : (guard :: rest).length ≤ recorder.builder.floor
      · rw [if_pos low]
        exact .inl ⟨.inl low, rfl⟩
      · right
        rw [if_neg low]
        have level (popped : Recorder) : popped.Level ((do
            closeBranch (← Ask.block guard.scope "owner")
            report do
              return s!"pop scope {← recorder.listing guard.scope} (depth {rest.length})"
            return guard.scope : Record HostValue).run.run popped).2 :=
          ((levels_ask _).bind fun _ => (levels_closeBranch _).bind fun _ =>
            (levels_report _).bind fun _ => levels_pure _) popped
        have level := level { recorder with builder := { recorder.builder with stack := rest } }
        refine ⟨guard, ?_, ?_, level.floor, level.next⟩
        · rw [scopes]
          exact congrArg (guard :: ·) level.stack.symm
        · rw [scopes]
          exact Nat.lt_of_not_le low

theorem enterBranch_opens (branch : Branch) : Opens (enterBranch branch) := by
  refine levels_last?.opens fun (block, last?) => .get fun state => ?_
  dsimp only
  split
  · split
    · exact (levels_ask _).opens fun _ => (levels_throw _).fails fun _ => ⟨_, _, rfl⟩
    · exact (levels_modifyRecording _).opens fun _ => createScope_opens _
  · split
    · exact (levels_ask _).opens fun _ => (levels_throw _).fails fun _ => ⟨_, _, rfl⟩
    · exact (levels_throw _).fails fun _ => ⟨_, _, rfl⟩

theorem enterBody_opens : Opens enterBody := by
  refine levels_last?.opens fun (block, last?) => .get fun state => ?_
  dsimp only
  split
  · exact createScope_opens _
  · exact (levels_throw _).fails fun _ => ⟨_, _, rfl⟩

end Scopes

section Statements

theorem levels_insertInto (block statement : HostValue) : Levels (insertInto block statement) := by
  intro recorder
  rcases insertInto_cases recorder block statement with same | ⟨_, _, _, _, _, ends⟩
  · rw [same]
    exact .refl recorder
  · rw [ends]
    exact ⟨rfl, rfl, rfl⟩

theorem levels_insert (statement : HostValue) : Levels (insert statement) := by
  intro recorder
  rcases insert_cases recorder statement with same | ⟨_, _, _, _, ends⟩
  · rw [same]
    exact .refl recorder
  · rw [ends]
    exact ⟨rfl, rfl, rfl⟩

theorem levels_record (addition : Recording → Nat × Recording) : Levels (record addition) :=
  levels_currentScope.bind fun _ => (levels_addTo _).bind fun _ =>
    (levels_insert _).bind fun _ => levels_pure _

theorem levels_alloca (name? : Option String) : Levels (alloca name?) :=
  (levels_build _).bind fun _ => (levels_record _).bind fun _ => levels_pure _

theorem levels_assign (target value : HostValue) : Levels (assign target value) :=
  (levels_ask _).bind fun _ => (levels_build _).bind fun _ => levels_record _

theorem levels_var (value : HostValue) (name? : Option String) : Levels (var value name?) :=
  (levels_alloca name?).bind fun _ => (levels_assign _ value).bind fun _ => levels_pure _

theorem levels_print (value label : HostValue) : Levels (print value label) :=
  (levels_build _).bind fun _ => levels_record _

theorem levels_beginIf (condition : HostValue) : Levels (beginIf condition) :=
  (levels_build _).bind fun _ => levels_record _

theorem levels_beginRange (counter first last : HostValue) :
    Levels (beginRange counter first last) :=
  (levels_build _).bind fun _ => (levels_build _).bind fun _ => (levels_ask _).bind fun _ =>
    levels_record _

theorem levels_beginElements (vars field : HostValue) : Levels (beginElements vars field) := by
  refine (levels_build _).bind fun group => ?_
  split
  · exact levels_thrown
  refine (levels_ask _).bind fun declared => (levels_ask _).bind fun vars => .get fun state => ?_
  split
  · exact levels_record _
  · dsimp only
    split
    · exact levels_thrown
    · exact levels_record _

theorem levels_hint (kind : HintKind) (value : HostValue) : Levels (hint kind value) := by
  refine .get fun state => ?_
  split
  · exact levels_throw _
  · exact (levels_ask _).bind fun _ => (levels_modifyRecording _).bind fun _ => levels_pure _

theorem levels_newAssign (target value : HostValue) : Levels (newAssign target value) := by
  refine (levels_build _).bind fun value => (levels_ask _).bind fun target => ?_
  split
  · exact levels_addTo _
  · exact levels_thrown

theorem levels_newStore (place value : HostValue) : Levels (newStore place value) := by
  rw [newStore.eq_def]
  split
  · exact (levels_build _).bind fun _ => levels_addTo _
  · exact (levels_ask _).bind fun _ => levels_throw _

theorem levels_newAlloca (named : HostValue) (type? : Option HostValue) :
    Levels (newAlloca named type?) := by
  refine (levels_ask _).bind fun identifier => ?_
  split
  · exact (levels_ask _).bind fun _ => levels_addTo _
  · exact (levels_pure _).bind fun _ => levels_addTo _

end Statements

/-- The scope of a definition is closed together with the definition. -/
theorem exitRoot_scopes (recorder : Recorder) :
    recorder.Scopes (exitRoot.run.run recorder).2 := by
  rw [exitRoot, run_get_bind]
  by_cases single : recorder.builder.depth = 1
  swap
  · rw [if_pos single]
    exact .level (.refl recorder)
  rw [if_neg (not_not.mpr single)]
  obtain ⟨guard, scopes⟩ := List.length_eq_one_iff.mp single
  let loose : Recorder := { recorder with builder := { recorder.builder with floor := 0 } }
  have popped : (popScope.run.run loose).2.builder.stack = [] ∧
      (popScope.run.run loose).2.builder.floor = 0 ∧
      (popScope.run.run loose).2.nextGuard = recorder.nextGuard := by
    rcases popScope_cases loose with ⟨low | empty, _⟩ | ⟨top, closed⟩
    · rw [show loose.builder.stack = [guard] from scopes] at low
      exact absurd low (Nat.not_succ_le_zero 0)
    · rw [show loose.builder.stack = [guard] from scopes] at empty
      cases empty
    · have stack := closed.stack
      rw [show loose.builder.stack = [guard] from scopes] at stack
      exact ⟨(List.cons.inj stack).2.symm, closed.floor, closed.next⟩
  exact .drops popped.1 popped.2.1 popped.2.2

/-- A guard is the innermost scope of a builder. -/
abbrev Innermost (guard : Guard) (recorder : Recorder) : Prop :=
  recorder.builder.stack.head?.any (·.id = guard.id)

/-- A guard that is the innermost scope is left by closing it. -/
theorem leave_innermost {guard : Guard} (innermost : Innermost guard recorder) (failed : Bool) :
    ((leave guard failed).run.run recorder).2 = (popScope.run.run recorder).2 := by
  rw [leave, run_get_bind, if_pos innermost, run_run_bind]
  rcases popScope.run.run recorder with ⟨error | result, final⟩ <;> rfl

/-- A guard that is not the innermost scope is left alone, which is a fault unless
something has failed already. -/
theorem leave_beneath {guard : Guard} (beneath : ¬Innermost guard recorder) (failed : Bool) :
    (leave guard failed).run.run recorder =
      (if failed then .ok ()
        else .error (.quoting (recorder.listing guard.scope) fun block => .scope (.notOnTop block)),
        recorder) := by
  rw [leave, run_get_bind, if_neg beneath]
  cases failed with
  | true => rfl
  | false => rfl

theorem leave_scopes (guard : Guard) (failed : Bool) :
    recorder.Scopes ((leave guard failed).run.run recorder).2 := by
  by_cases innermost : Innermost guard recorder
  · rw [leave_innermost innermost]
    rcases popScope_cases recorder with ⟨_, same⟩ | ⟨top, closed⟩
    · rw [same]
      exact .level (.refl recorder)
    · exact .closes top closed
  · rw [leave_beneath innermost]
    exact .level (.refl recorder)

end Record

namespace Operation

/-- An operation answers with the scope that it opens. -/
def entersScope : Operation → Bool
  | createScope _ | enterRoot _ | enterBranch _ | enterBody | openRange _ _ _ | openElements _ _ =>
    true
  | _ => false

/-- Apart from the scope of a definition, a scope is opened on those that there are. -/
theorem performs_opening {operation : Operation} (enters : operation.entersScope)
    (nested : ∀ scope, operation ≠ enterRoot scope) :
    ∃ attempt, operation.perform = ofGuard <$> attempt ∧ Record.Opens attempt := by
  cases operation with
  | createScope scope => exact ⟨_, rfl, Record.createScope_opens scope⟩
  | enterRoot scope => exact absurd rfl (nested scope)
  | enterBranch branch => exact ⟨_, rfl, Record.enterBranch_opens branch⟩
  | enterBody => exact ⟨_, rfl, Record.enterBody_opens⟩
  | openRange counter first last =>
      exact ⟨_, rfl, (Record.levels_beginRange counter first last).opens fun _ =>
        Record.enterBody_opens⟩
  | openElements vars field =>
      exact ⟨_, rfl, (Record.levels_beginElements vars field).opens fun _ =>
        Record.enterBody_opens⟩
  | _ => cases enters

/-- An operation opens or closes one scope at most, or drops them all. -/
theorem scopes (operation : Operation) (recorder : Recorder) :
    recorder.Scopes (operation.perform.run.run recorder).2 := by
  have leveled {α : Type} {attempt : Record α} {answer : α → HostValue}
      (levels : Record.Levels attempt) :
      recorder.Scopes ((answer <$> attempt).run.run recorder).2 :=
    .level (levels.map answer recorder)
  have opening (enters : operation.entersScope) (nested : ∀ scope, operation ≠ enterRoot scope) :
      recorder.Scopes (operation.perform.run.run recorder).2 := by
    obtain ⟨attempt, performs, opens⟩ := performs_opening enters nested
    have ends := opens recorder recorder rfl
    rw [performs, run_run_map]
    revert ends
    rcases attempt.run.run recorder with ⟨error | guard, final⟩
    · exact .level
    · exact .opens guard
  cases operation with
  | build building => exact .level (Record.levels_build _ recorder)
  | createScope _ | enterBranch _ | enterBody | openRange _ _ _ | openElements _ _ =>
      exact opening rfl nofun
  | popScope =>
      rcases Record.popScope_cases recorder with ⟨_, same⟩ | ⟨guard, closed⟩
      · rw [perform, same]
        exact .level (.refl recorder)
      · exact .closes guard closed
  | enterRoot scope =>
      rw [perform, run_run_map]
      by_cases alone : recorder.builder.stack = []
      · rw [Record.enterRoot, Record.run_get_bind, if_pos (by simp [alone])]
        refine .founds ⟨recorder.nextGuard, scope⟩ rfl ?_ rfl rfl
        exact congrArg (_ :: ·) alone
      · rw [Record.enterRoot_refused alone]
        exact .level (.refl recorder)
  | exitRoot => exact Record.exitRoot_scopes recorder
  | reset => exact .drops rfl rfl rfl
  | leave guard failed =>
      rw [perform, run_run_map]
      exact Record.leave_scopes guard failed
  | insert statement => exact leveled (Record.levels_insert statement)
  | insertInto block statement => exact leveled (Record.levels_insertInto block statement)
  | alloca name? => exact leveled (Record.levels_alloca name?)
  | assign target value => exact leveled (Record.levels_assign target value)
  | var value name? => exact leveled (Record.levels_var value name?)
  | print value label => exact leveled (Record.levels_print value label)
  | beginIf condition => exact leveled (Record.levels_beginIf condition)
  | beginRange counter first last => exact leveled (Record.levels_beginRange counter first last)
  | beginElements vars field => exact leveled (Record.levels_beginElements vars field)
  | hint kind value => exact leveled (Record.levels_hint kind value)
  | newBlock label => exact leveled (Record.levels_addTo _)
  | newAssign target value => exact leveled (Record.levels_newAssign target value)
  | newStore place value => exact leveled (Record.levels_newStore place value)
  | newLoad place =>
      exact leveled ((Record.levels_ask _).bind fun _ => Record.levels_addTo _)
  | newAlloca named type? => exact leveled (Record.levels_newAlloca named type?)
  | newPrint value label => exact leveled (Record.levels_addTo _)
  | newBranch condition => exact leveled (Record.levels_addTo _)
  | newRange counter first last =>
      exact leveled ((Record.levels_build _).bind fun _ => (Record.levels_build _).bind fun _ =>
        (Record.levels_ask _).bind fun _ => Record.levels_addTo _)
  | newElements vars field =>
      exact leveled ((Record.levels_ask _).bind fun _ => (Record.levels_ask _).bind fun _ =>
        (Record.levels_ask _).bind fun _ => Record.levels_addTo _)
  | newBare => exact leveled (Record.levels_addTo _)
  | locate statement location => exact leveled (Record.levels_modifyRecording _)
  | setHint loop kind value => exact leveled (Record.levels_modifyRecording _)

/-- Inside of another scope, a scope that is answered is one that was opened there. -/
theorem opened {operation : Operation} (enters : operation.entersScope) {recorder final : Recorder}
    (inside : recorder.builder.stack ≠ []) {answer : HostValue}
    (run : operation.perform.run.run recorder = (.ok answer, final)) :
    ∃ guard, answer = ofGuard guard ∧ recorder.Opened guard final := by
  have nested (scope : HostValue) : operation ≠ enterRoot scope := by
    rintro rfl
    rw [perform, run_run_map, Record.enterRoot_refused inside] at run
    cases run
  obtain ⟨attempt, performs, opens⟩ := performs_opening enters nested
  have ends := opens recorder recorder rfl
  rw [performs, run_run_map] at run
  revert ends run
  rcases attempt.run.run recorder with ⟨error | guard, after⟩
  · rintro ⟨⟩
  · rintro ⟨⟩ opened
    exact ⟨guard, rfl, opened⟩

end Operation

namespace Builder

/-- All scopes have smaller numbers, and one scope at most is fixed. -/
structure Numbered (builder : Builder) (next : Nat) : Prop where
  below {entry : Guard} (member : entry ∈ builder.stack) : entry.id < next
  floor : builder.floor ≤ 1

/-- Wherever there is an entry with the number of a guard, it is that guard, and
it stands on the given entries. -/
def StandsOn (builder : Builder) (guard : Guard) (beneath : List Guard) : Prop :=
  ∀ above entry rest, builder.stack = above ++ entry :: rest → entry.id = guard.id →
    entry = guard ∧ rest = beneath

theorem numbered_empty (next : Nat) : Builder.empty.Numbered next :=
  ⟨fun member => (List.not_mem_nil member).elim, Nat.zero_le 1⟩

theorem Numbered.mono {builder : Builder} {next later : Nat} (numbered : builder.Numbered next)
    (more : next ≤ later) : builder.Numbered later :=
  ⟨fun member => (numbered.below member).trans_le more, numbered.floor⟩

end Builder

namespace Recorder

variable {before after : Recorder}

theorem Scopes.next_le (scopes : before.Scopes after) : before.nextGuard ≤ after.nextGuard := by
  cases scopes with
  | level level => exact level.next.ge
  | opens guard opened => exact opened.next ▸ Nat.le_succ _
  | closes guard closed => exact closed.next.ge
  | drops stack floor next => exact next.ge
  | founds guard number stack floor next => exact next ▸ Nat.le_succ _

theorem Scopes.numbered (scopes : before.Scopes after)
    (numbered : before.builder.Numbered before.nextGuard) :
    after.builder.Numbered after.nextGuard := by
  cases scopes with
  | level level =>
      constructor
      · rw [level.stack, level.next]
        exact numbered.below
      · rw [level.floor]
        exact numbered.floor
  | opens guard opened =>
      constructor
      · intro entry member
        rw [opened.stack] at member
        rw [opened.next]
        rcases List.mem_cons.mp member with rfl | old
        · exact opened.number ▸ Nat.lt_succ_self _
        · exact Nat.lt_succ_of_lt (numbered.below old)
      · rw [opened.floor]
        exact numbered.floor
  | closes guard closed =>
      constructor
      · intro entry member
        rw [closed.next]
        exact numbered.below (closed.stack ▸ List.mem_cons_of_mem _ member)
      · rw [closed.floor]
        exact numbered.floor
  | drops stack floor next =>
      constructor
      · intro entry member
        rw [stack] at member
        cases member
      · exact floor ▸ Nat.zero_le 1
  | founds guard number stack floor next =>
      constructor
      · intro entry member
        rw [stack] at member
        rw [List.mem_singleton.mp member, next, number]
        exact Nat.lt_succ_self _
      · exact floor.le

/-- A scope is found nowhere but on the scopes that it was opened on. -/
theorem Scopes.standsOn (scopes : before.Scopes after) {guard : Guard} {beneath : List Guard}
    (known : guard.id < before.nextGuard) (stands : before.builder.StandsOn guard beneath) :
    after.builder.StandsOn guard beneath := by
  intro above entry rest whole same
  cases scopes with
  | level level => exact stands above entry rest (level.stack.symm.trans whole) same
  | opens new opened =>
      rw [opened.stack] at whole
      cases above with
      | nil =>
          obtain ⟨rfl, _⟩ := List.cons.inj whole
          rw [opened.number] at same
          exact absurd same known.ne'
      | cons first above =>
          exact stands above entry rest (List.cons.inj whole).2 same
  | closes top closed =>
      refine stands (top :: above) entry rest ?_ same
      rw [closed.stack, whole]
      rfl
  | drops stack floor next =>
      rw [stack] at whole
      exact absurd whole (by simp)
  | founds new number stack floor next =>
      have member : entry ∈ [new] := by
        rw [← stack, whole]
        simp
      rw [List.mem_singleton.mp member, number] at same
      exact absurd same known.ne'

/-- A scope that has just been opened stands on those that it was opened on. -/
theorem Opened.standsOn {guard : Guard} (opened : before.Opened guard after)
    (numbered : before.builder.Numbered before.nextGuard) :
    guard.id < after.nextGuard ∧ after.builder.StandsOn guard before.builder.stack := by
  refine ⟨by rw [opened.next, opened.number]; exact Nat.lt_succ_self _, ?_⟩
  intro above entry rest whole same
  rw [opened.stack] at whole
  cases above with
  | nil =>
      obtain ⟨rfl, rfl⟩ := List.cons.inj whole
      exact ⟨rfl, rfl⟩
  | cons first above =>
      have member : entry ∈ before.builder.stack := by
        rw [(List.cons.inj whole).2]
        simp
      have below := numbered.below member
      rw [same, opened.number] at below
      exact absurd below (Nat.lt_irrefl _)

/-- A scope that was opened inside of others is closed if it is the innermost one. -/
theorem closed_of_innermost {guard : Guard} {beneath : List Guard} {recorder : Recorder}
    (numbered : recorder.builder.Numbered recorder.nextGuard)
    (stands : recorder.builder.StandsOn guard beneath) (inside : beneath ≠ [])
    (innermost : Record.Innermost guard recorder) :
    recorder.builder.stack = guard :: beneath ∧
      (Record.popScope.run.run recorder).2.builder.stack = beneath := by
  cases scopes : recorder.builder.stack with
  | nil =>
      rw [Record.Innermost, scopes] at innermost
      cases innermost
  | cons top rest =>
      have same : top.id = guard.id := by simpa [Record.Innermost, scopes] using innermost
      obtain ⟨rfl, rfl⟩ := stands [] top rest scopes same
      refine ⟨rfl, ?_⟩
      rcases Record.popScope_cases recorder with ⟨low | empty, _⟩ | ⟨closing, closed⟩
      · have deep := List.length_pos_iff.mpr inside
        have lowest := numbered.floor
        rw [scopes, List.length_cons] at low
        omega
      · rw [scopes] at empty
        cases empty
      · have whole := closed.stack
        rw [scopes] at whole
        exact (List.cons.inj whole).2.symm

end Recorder

end FieldKernel
