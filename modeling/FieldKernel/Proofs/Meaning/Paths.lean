import Mathlib
import FieldKernel.Recording.Stmt

/-!
# Paths through recorded code

A path takes any branch of a conditional and any number of rounds of a loop.
The variables that a statement needs are those that some path through it reads
before it sets them.  They follow from the statement alone.
-/

namespace FieldKernel

mutual

/-- The variables in an expression. -/
def Expr.reads : Expr → List Nat
  | .identifier var => [var.identifier.id]
  | .literal _ _ _ => []
  | .binary _ _ left right => left.reads ++ right.reads
  | .unary _ _ operand => operand.reads
  | .cast _ operand _ => operand.reads
  | .field _ => []
  | .element _ _ indices => Expr.rowReads indices
  | .load _ _ _ indices => Expr.rowReads indices
  | .argument _ _ _ => []

/-- The variables in a row of expressions. -/
def Expr.rowReads : List Expr → List Nat
  | [] => []
  | first :: rest => first.reads ++ Expr.rowReads rest

end

/-- The variables in what a statement was given. -/
def HostValue.reads : HostValue → List Nat
  | .expr value => value.reads
  | _ => []

namespace LoopSource

/-- The variables in the bounds of a loop. -/
def reads : LoopSource → List Nat
  | .range first last => first.reads ++ last.reads
  | .elements _ => []

/-- The variables that are set at the start of every round of a loop: a range
has one counter, and the elements of a field have one for each axis. -/
def counters (vars : List Variable) : LoopSource → List Nat
  | .range _ _ => [(vars.head?.map (·.identifier.id)).getD 0]
  | .elements _ => vars.map (·.identifier.id)

end LoopSource

/-- What happens to variables on a path. -/
inductive Event where
  | reads (ids : List Nat)
  | sets (ids : List Nat)

namespace Event

/-- The variables that are set on a path. -/
def setBy : List Event → List Nat
  | [] => []
  | .reads _ :: rest => setBy rest
  | .sets ids :: rest => ids ++ setBy rest

/-- The variables that are read on a path before they are set. -/
def neededBy : List Event → List Nat
  | [] => []
  | .reads ids :: rest => ids ++ neededBy rest
  | .sets ids :: rest => (neededBy rest).filter (· ∉ ids)

theorem mem_setBy_append {id : Nat} (first second : List Event) :
    id ∈ setBy (first ++ second) ↔ id ∈ setBy first ∨ id ∈ setBy second := by
  induction first with
  | nil => simp [setBy]
  | cons event rest hypothesis =>
      cases event with
      | reads ids => simpa [setBy] using hypothesis
      | sets ids => simp [setBy, hypothesis, or_assoc]

theorem mem_neededBy_append {id : Nat} (first second : List Event) :
    id ∈ neededBy (first ++ second) ↔
      id ∈ neededBy first ∨ id ∈ neededBy second ∧ id ∉ setBy first := by
  induction first with
  | nil => simp [neededBy, setBy]
  | cons event rest hypothesis =>
      cases event with
      | reads ids => simp [neededBy, setBy, hypothesis, or_assoc]
      | sets ids =>
          simp only [List.cons_append, neededBy, setBy, List.mem_filter, hypothesis,
            decide_eq_true_eq, List.mem_append, not_or]
          tauto

end Event

namespace Stmt

/-- The variables in the expressions that a statement without statements inside
it computes. -/
def ownReads : Stmt → List Nat
  | .assign _ (.element _ _ indices) value => Expr.rowReads indices ++ value.reads
  | .assign _ _ value => value.reads
  | .load _ place => Expr.rowReads place.indices
  | .store _ place value => Expr.rowReads place.indices ++ value.reads
  | .print _ value _ => value.reads
  | _ => []

/-- The variables that a statement without statements inside it sets, given the
types of the zeros that declarations set variables to.  Without a type there is
no zero. -/
def ownSets (resetType : Nat → DataType) : Stmt → List Nat
  | .alloca _ identifier _ =>
    if resetType identifier.id = .unknown then [] else [identifier.id]
  | .assign _ (.identifier var) _ => [var.identifier.id]
  | _ => []

/-- Whether a statement has no statements inside it. -/
def isPlain : Stmt → Bool
  | .branch _ _ _ _ => false
  | .loop _ _ _ _ _ => false
  | _ => true

mutual

/-- A path leads through a statement. -/
inductive Path (resetType : Nat → DataType) : Stmt → List Event → Prop where
  | plain {statement : Stmt} (plain : statement.isPlain) :
      Path resetType statement [.reads statement.ownReads, .sets (statement.ownSets resetType)]
  | onTrue {site? : Option Location} {condition : HostValue} {onTrue onFalse : List Stmt}
      {events : List Event} (path : BlockPath resetType onTrue events) :
      Path resetType (.branch site? condition onTrue onFalse)
        (.reads condition.reads :: events)
  | onFalse {site? : Option Location} {condition : HostValue} {onTrue onFalse : List Stmt}
      {events : List Event} (path : BlockPath resetType onFalse events) :
      Path resetType (.branch site? condition onTrue onFalse)
        (.reads condition.reads :: events)
  | loop {site? : Option Location} {vars : List Variable} {source : LoopSource}
      {schedule : Schedule} {body : List Stmt} {rounds : List (List Event)}
      (paths : ∀ events ∈ rounds, BlockPath resetType body events) :
      Path resetType (.loop site? vars source schedule body)
        (.reads source.reads ::
          rounds.flatMap fun events => .sets (source.counters vars) :: events)

/-- A path leads through the statements of a block, one after the other. -/
inductive BlockPath (resetType : Nat → DataType) : List Stmt → List Event → Prop where
  | nil : BlockPath resetType [] []
  | cons {first : Stmt} {rest : List Stmt} {events later : List Event}
      (path : Path resetType first events) (following : BlockPath resetType rest later) :
      BlockPath resetType (first :: rest) (events ++ later)

end

mutual

/-- The variables that every path through a statement sets. -/
def assigned (resetType : Nat → DataType) : Stmt → List Nat
  | .branch _ _ onTrue onFalse =>
    (blockAssigned resetType onTrue).filter (· ∈ blockAssigned resetType onFalse)
  | .loop _ _ _ _ _ => []
  | statement => statement.ownSets resetType

/-- The variables that every path through a block sets. -/
def blockAssigned (resetType : Nat → DataType) : List Stmt → List Nat
  | [] => []
  | first :: rest => first.assigned resetType ++ blockAssigned resetType rest

end

mutual

/-- The variables that some path through a statement reads before it sets
them. -/
def needs (resetType : Nat → DataType) : Stmt → List Nat
  | .branch _ condition onTrue onFalse =>
    condition.reads ++ blockNeeds resetType onTrue ++ blockNeeds resetType onFalse
  | .loop _ vars source _ body =>
    source.reads ++ (blockNeeds resetType body).filter (· ∉ source.counters vars)
  | statement => statement.ownReads

/-- The variables that some path through a block reads before it sets them. -/
def blockNeeds (resetType : Nat → DataType) : List Stmt → List Nat
  | [] => []
  | first :: rest =>
    first.needs resetType ++ (blockNeeds resetType rest).filter (· ∉ first.assigned resetType)

end

section Exactness

variable {resetType : Nat → DataType}

theorem assigned_eq_ownSets {statement : Stmt} (plain : statement.isPlain) :
    statement.assigned resetType = statement.ownSets resetType := by
  cases statement with
  | branch | loop => cases plain
  | alloca | assign | load | store | print | bare | endless => rfl

theorem needs_eq_ownReads {statement : Stmt} (plain : statement.isPlain) :
    statement.needs resetType = statement.ownReads := by
  cases statement with
  | branch | loop => cases plain
  | alloca | assign | load | store | print | bare | endless => rfl

mutual

/-- What is assigned is set on every path. -/
theorem Path.sets (statement : Stmt) {events : List Event}
    (path : Path resetType statement events) {id : Nat}
    (member : id ∈ statement.assigned resetType) : id ∈ Event.setBy events := by
  cases path with
  | plain plain =>
      rw [assigned_eq_ownSets plain] at member
      simpa [Event.setBy] using member
  | onTrue path =>
      simp only [assigned, List.mem_filter] at member
      exact path.sets _ member.1
  | onFalse path =>
      simp only [assigned, List.mem_filter, decide_eq_true_eq] at member
      exact path.sets _ member.2
  | loop paths => simp [assigned] at member

theorem BlockPath.sets (body : List Stmt) {events : List Event}
    (path : BlockPath resetType body events) {id : Nat}
    (member : id ∈ blockAssigned resetType body) : id ∈ Event.setBy events := by
  cases path with
  | nil => simp [blockAssigned] at member
  | cons path following =>
      rw [Event.mem_setBy_append]
      simp only [blockAssigned, List.mem_append] at member
      exact member.imp (path.sets _) (following.sets _)

end

mutual

/-- Some path leads through every statement, without setting a variable that is
not assigned. -/
theorem exists_path (statement : Stmt) {id : Nat} (missing : id ∉ statement.assigned resetType) :
    ∃ events, Path resetType statement events ∧ id ∉ Event.setBy events := by
  cases statement with
  | branch site? condition onTrue onFalse =>
      simp only [assigned, List.mem_filter, decide_eq_true_eq, not_and_or] at missing
      rcases missing with missing | missing
      · obtain ⟨events, path, unset⟩ := exists_blockPath onTrue missing
        exact ⟨_, .onTrue path, by simpa [Event.setBy] using unset⟩
      · obtain ⟨events, path, unset⟩ := exists_blockPath onFalse missing
        exact ⟨_, .onFalse path, by simpa [Event.setBy] using unset⟩
  | loop site? vars source schedule body =>
      have none : ∀ events ∈ ([] : List (List Event)), BlockPath resetType body events := by simp
      exact ⟨_, .loop none, by simp [Event.setBy]⟩
  | alloca | assign | load | store | print | bare | endless =>
      rw [assigned_eq_ownSets rfl] at missing
      exact ⟨_, .plain rfl, by simpa [Event.setBy] using missing⟩

theorem exists_blockPath (body : List Stmt) {id : Nat}
    (missing : id ∉ blockAssigned resetType body) :
    ∃ events, BlockPath resetType body events ∧ id ∉ Event.setBy events := by
  cases body with
  | nil => exact ⟨[], .nil, by simp [Event.setBy]⟩
  | cons first rest =>
      simp only [blockAssigned, List.mem_append, not_or] at missing
      obtain ⟨events, path, unset⟩ := exists_path first missing.1
      obtain ⟨later, following, unsetLater⟩ := exists_blockPath rest missing.2
      refine ⟨events ++ later, .cons path following, ?_⟩
      rw [Event.mem_setBy_append]
      exact not_or.mpr ⟨unset, unsetLater⟩

end

theorem blockPath_nonempty (body : List Stmt) : ∃ events, BlockPath resetType body events := by
  obtain ⟨id, missing⟩ := Infinite.exists_notMem_finset (blockAssigned resetType body).toFinset
  obtain ⟨events, path, _⟩ := exists_blockPath body (by simpa using missing)
  exact ⟨events, path⟩

/-- A variable that a loop reads before it sets it is needed by one of its
rounds. -/
theorem mem_neededBy_rounds {counters : List Nat} {id : Nat} (rounds : List (List Event))
    (member : id ∈ Event.neededBy (rounds.flatMap fun events => .sets counters :: events)) :
    ∃ events ∈ rounds, id ∈ Event.neededBy events ∧ id ∉ counters := by
  induction rounds with
  | nil => simp [Event.neededBy] at member
  | cons events rest hypothesis =>
      rw [List.flatMap_cons, Event.mem_neededBy_append] at member
      rcases member with now | ⟨later, _⟩
      · simp only [Event.neededBy, List.mem_filter, decide_eq_true_eq] at now
        exact ⟨events, by simp, now⟩
      · obtain ⟨other, among, needed⟩ := hypothesis later
        exact ⟨other, by simp [among], needed⟩

mutual

/-- What a path reads before it sets it is needed. -/
theorem Path.needs (statement : Stmt) {events : List Event}
    (path : Path resetType statement events) {id : Nat} (member : id ∈ Event.neededBy events) :
    id ∈ statement.needs resetType := by
  cases path with
  | plain plain =>
      rw [needs_eq_ownReads plain]
      simpa [Event.neededBy] using member
  | onTrue path =>
      simp only [Event.neededBy, List.mem_append] at member
      simp only [Stmt.needs, List.mem_append]
      exact .inl (member.imp_right (path.needs _))
  | onFalse path =>
      simp only [Event.neededBy, List.mem_append] at member
      simp only [Stmt.needs, List.mem_append, or_assoc]
      exact member.imp_right fun member => .inr (path.needs _ member)
  | loop paths =>
      simp only [Event.neededBy, List.mem_append] at member
      simp only [Stmt.needs, List.mem_append, List.mem_filter, decide_eq_true_eq]
      refine member.imp_right fun member => ?_
      obtain ⟨events, among, needed, unset⟩ := mem_neededBy_rounds _ member
      exact ⟨(paths events among).needs _ needed, unset⟩

theorem BlockPath.needs (body : List Stmt) {events : List Event}
    (path : BlockPath resetType body events) {id : Nat} (member : id ∈ Event.neededBy events) :
    id ∈ blockNeeds resetType body := by
  cases path with
  | nil => simp [Event.neededBy] at member
  | cons path following =>
      rw [Event.mem_neededBy_append] at member
      simp only [blockNeeds, List.mem_append, List.mem_filter, decide_eq_true_eq]
      exact member.imp (path.needs _) fun ⟨needed, unset⟩ =>
        ⟨following.needs _ needed, fun assigned => unset (path.sets _ assigned)⟩

end

mutual

/-- What a statement needs is read on some path before it is set. -/
theorem exists_path_of_needs (statement : Stmt) {id : Nat}
    (member : id ∈ statement.needs resetType) :
    ∃ events, Path resetType statement events ∧ id ∈ Event.neededBy events := by
  cases statement with
  | branch site? condition onTrue onFalse =>
      simp only [Stmt.needs, List.mem_append] at member
      rcases member with (member | member) | member
      · obtain ⟨events, path⟩ := blockPath_nonempty onTrue
        exact ⟨_, .onTrue path, by simp [Event.neededBy, member]⟩
      · obtain ⟨events, path, needed⟩ := exists_blockPath_of_needs onTrue member
        exact ⟨_, .onTrue path, by simp [Event.neededBy, needed]⟩
      · obtain ⟨events, path, needed⟩ := exists_blockPath_of_needs onFalse member
        exact ⟨_, .onFalse path, by simp [Event.neededBy, needed]⟩
  | loop site? vars source schedule body =>
      simp only [Stmt.needs, List.mem_append, List.mem_filter, decide_eq_true_eq] at member
      rcases member with member | ⟨member, unset⟩
      · have none : ∀ events ∈ ([] : List (List Event)), BlockPath resetType body events := by simp
        exact ⟨_, .loop none, by simp [Event.neededBy, member]⟩
      · obtain ⟨events, path, needed⟩ := exists_blockPath_of_needs body member
        have once : ∀ others ∈ [events], BlockPath resetType body others := by simpa using path
        exact ⟨_, .loop once, by simp [Event.neededBy, needed, unset]⟩
  | alloca | assign | load | store | print | bare | endless =>
      rw [needs_eq_ownReads rfl] at member
      exact ⟨_, .plain rfl, by simpa [Event.neededBy] using member⟩

theorem exists_blockPath_of_needs (body : List Stmt) {id : Nat}
    (member : id ∈ blockNeeds resetType body) :
    ∃ events, BlockPath resetType body events ∧ id ∈ Event.neededBy events := by
  cases body with
  | nil => simp [blockNeeds] at member
  | cons first rest =>
      simp only [blockNeeds, List.mem_append, List.mem_filter, decide_eq_true_eq] at member
      rcases member with member | ⟨member, unassigned⟩
      · obtain ⟨events, path, needed⟩ := exists_path_of_needs first member
        obtain ⟨later, following⟩ := blockPath_nonempty rest
        exact ⟨events ++ later, .cons path following,
          (Event.mem_neededBy_append _ _).mpr (.inl needed)⟩
      · obtain ⟨events, path, unset⟩ := exists_path first unassigned
        obtain ⟨later, following, needed⟩ := exists_blockPath_of_needs rest member
        exact ⟨events ++ later, .cons path following,
          (Event.mem_neededBy_append _ _).mpr (.inr ⟨needed, unset⟩)⟩

end

/-- A block needs exactly the variables that some path through it reads before
it sets them. -/
theorem mem_blockNeeds_iff {body : List Stmt} {id : Nat} :
    id ∈ blockNeeds resetType body ↔
      ∃ events, BlockPath resetType body events ∧ id ∈ Event.neededBy events :=
  ⟨exists_blockPath_of_needs body, fun ⟨_, path, needed⟩ => path.needs body needed⟩

end Exactness

end Stmt

end FieldKernel
