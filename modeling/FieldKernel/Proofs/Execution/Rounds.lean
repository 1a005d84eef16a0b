import FieldKernel.Proofs.Execution.Steps

/-!
# Rounds of a loop

A loop goes through values for its variables, which are fixed when the loop is
entered.  Each of its rounds sets the variables and then runs the body, so
nothing that a body does has an influence on which rounds are still to come or
on the values that they begin with.
-/

namespace FieldKernel

/-- The run with variables set to whole numbers, modulo their size. -/
def Run.counted (run : Run) (values : List (Nat × Int)) : Run :=
  { run with
    frame := values.foldl
      (fun frame (var, value) => frame.insert var (.ofScalar (.ofInt ⟨true, .w32⟩ value)))
      run.frame }

/-- A variable has a whole number as its value. -/
def Run.Counts (run : Run) (var : Nat) (value : Int) : Prop :=
  ∃ fits, run.frame[var]? = some (.ofScalar (.int ⟨true, .w32⟩ value fits))

/-- A variable has the number that it was set to if 32 bits can hold the number. -/
theorem Run.counts_iff {run : Run} {var : Nat} {value : Int}
    (set : run.frame[var]? = some (.ofScalar (.ofInt ⟨true, .w32⟩ value))) :
    run.Counts var value ↔ IntType.InRange ⟨true, .w32⟩ value := by
  constructor
  · rintro ⟨fits, _⟩
    exact fits
  · intro fits
    exact ⟨fits, by rw [set, Scalar.ofInt_of_inRange fits]⟩

/-- A round of a loop: what its variables are set to, and the run when the body
begins and when it is left. -/
structure Round where
  values : List (Nat × Int)
  begins : Run
  ends : Run

namespace Execute

/-- A loop goes through a list of values for its variables.  Listed are the
rounds whose body was begun.  The loop is left early if a body fails, or if the
variables cannot be set. -/
inductive Visits (body : Execute Unit) :
    Run → List (List (Nat × Int)) → List Round → Except Error Unit → Run → Prop where
  | done (run : Run) : Visits body run [] [] (.ok ()) run
  | round {run begins ends final : Run} {values : List (Nat × Int)}
      {rest : List (List (Nat × Int))} {rounds : List Round} {outcome : Except Error Unit} :
      (setCounters values).run.run run = (.ok (), begins) →
      body.run.run begins = (.ok (), ends) →
      Visits body ends rest rounds outcome final →
      Visits body run (values :: rest) (⟨values, begins, ends⟩ :: rounds) outcome final
  | broken {run begins final : Run} {values : List (Nat × Int)}
      {rest : List (List (Nat × Int))} {error : Error} :
      (setCounters values).run.run run = (.ok (), begins) →
      body.run.run begins = (.error error, final) →
      Visits body run (values :: rest) [⟨values, begins, final⟩] (.error error) final
  | refused {run final : Run} {values : List (Nat × Int)} {rest : List (List (Nat × Int))}
      {error : Error} :
      (setCounters values).run.run run = (.error error, final) →
      Visits body run (values :: rest) [] (.error error) final

/-- A loop that goes through values for its variables. -/
def goThrough (body : Execute Unit) (lists : List (List (Nat × Int))) : Execute Unit :=
  lists.forM fun values => do
    setCounters values
    body

/-- Every loop comes to its rounds. -/
theorem exists_visits (body : Execute Unit) (lists : List (List (Nat × Int))) (run : Run) :
    ∃ rounds, Visits body run lists rounds ((goThrough body lists).run.run run).1
      ((goThrough body lists).run.run run).2 := by
  induction lists generalizing run with
  | nil => exact ⟨[], .done run⟩
  | cons values rest hypothesis =>
      have unfolded : (goThrough body (values :: rest)).run.run run =
          ((setCounters values >>= fun _ => body) >>= fun _ => goThrough body rest).run.run run :=
        rfl
      rw [unfolded, run_run_bind, run_run_bind]
      rcases sets : (setCounters values).run.run run with ⟨error | ⟨⟩, begins⟩
      · exact ⟨[], .refused sets⟩
      · rcases runs : body.run.run begins with ⟨error | ⟨⟩, ends⟩
        · simp only [runs]
          exact ⟨_, .broken sets runs⟩
        · obtain ⟨rounds, later⟩ := hypothesis ends
          simp only [runs]
          exact ⟨_, .round sets runs later⟩

namespace Visits

variable {body : Execute Unit} {run final : Run} {lists : List (List (Nat × Int))}
  {rounds : List Round} {outcome : Except Error Unit}

/-- The rounds go through the values in their order. -/
theorem values_prefix (visits : Visits body run lists rounds outcome final) :
    rounds.map Round.values <+: lists := by
  induction visits with
  | done => exact List.nil_prefix
  | round _ _ _ hypothesis => exact List.cons_prefix_cons.mpr ⟨rfl, hypothesis⟩
  | broken => exact List.cons_prefix_cons.mpr ⟨rfl, List.nil_prefix⟩
  | refused => exact List.nil_prefix

theorem values_eq (visits : Visits body run lists rounds outcome final) {position : Nat}
    {round : Round} (among : rounds[position]? = some round) :
    lists[position]? = some round.values := by
  obtain ⟨later, rfl⟩ := visits.values_prefix
  have below := (List.getElem?_eq_some_iff.mp among).1
  rw [List.getElem?_append_left (by simpa using below), List.getElem?_map, among]
  rfl

/-- A loop that ends well has gone through all values. -/
theorem length_eq (visits : Visits body run lists rounds outcome final)
    (completes : outcome = .ok ()) : rounds.length = lists.length := by
  induction visits with
  | done => rfl
  | round _ _ _ hypothesis => rw [List.length_cons, List.length_cons, hypothesis completes]
  | broken => cases completes
  | refused => cases completes

/-- The variables are set when a body begins. -/
theorem begins (visits : Visits body run lists rounds outcome final) {round : Round}
    (member : round ∈ rounds) :
    ∃ before, (setCounters round.values).run.run before = (.ok (), round.begins) := by
  induction visits with
  | done => cases member
  | round sets _ _ hypothesis =>
      rcases List.mem_cons.mp member with rfl | later
      · exact ⟨_, sets⟩
      · exact hypothesis later
  | broken sets =>
      rw [List.mem_singleton.mp member]
      exact ⟨_, sets⟩
  | refused => cases member

/-- A loop that fails was left by the body of its last round, or because the
variables could not be set for the next one. -/
theorem failure {error : Error} (visits : Visits body run lists rounds outcome final)
    (fails : outcome = .error error) :
    (∃ round, rounds.getLast? = some round ∧
        body.run.run round.begins = (.error error, final)) ∨
      ∃ values before, lists[rounds.length]? = some values ∧
        (∀ round ∈ rounds, body.run.run round.begins = (.ok (), round.ends)) ∧
        (setCounters values).run.run before = (.error error, final) := by
  induction visits with
  | done => cases fails
  | @round _ _ _ _ _ _ rounds _ _ completes _ hypothesis =>
      rcases hypothesis fails with ⟨last, found, broken⟩ | ⟨next, before, listed, complete, refused⟩
      · refine .inl ⟨last, ?_, broken⟩
        rw [List.getLast?_cons, found]
        rfl
      · refine .inr ⟨next, before, listed, ?_, refused⟩
        intro round member
        rcases List.mem_cons.mp member with rfl | later
        · exact completes
        · exact complete round later
  | broken _ broken =>
      cases fails
      exact .inl ⟨_, rfl, broken⟩
  | refused refused =>
      cases fails
      refine .inr ⟨_, _, rfl, ?_, refused⟩
      intro round member
      cases member

end Visits

section Counters

variable {run : Run}

theorem setCounter_run (var : Nat) (value : Int) :
    (setCounter var value).run.run run =
      if IntType.InRange ⟨true, .w64⟩ value then (.ok (), run.counted [(var, value)])
      else (.error (Literal.wide value .i32), run) := by
  rw [setCounter, Literal.convert_int]
  split
  · rfl
  · rfl

/-- Numbers of 64 bits can be given to the variables of a loop. -/
theorem setCounters_run {values : List (Nat × Int)}
    (fit : ∀ value ∈ values, IntType.InRange ⟨true, .w64⟩ value.2) :
    (setCounters values).run.run run = (.ok (), run.counted values) := by
  induction values generalizing run with
  | nil => rfl
  | cons first rest hypothesis =>
      obtain ⟨var, value⟩ := first
      have unfolded : (setCounters ((var, value) :: rest)).run.run run =
          (setCounter var value >>= fun _ => setCounters rest).run.run run := rfl
      rw [unfolded, run_run_bind, setCounter_run, if_pos (fit _ List.mem_cons_self)]
      exact hypothesis fun later member => fit later (List.mem_cons_of_mem _ member)

theorem counted_cons (first : Nat × Int) (rest : List (Nat × Int)) :
    run.counted (first :: rest) = (run.counted [first]).counted rest :=
  rfl

theorem counted_other {values : List (Nat × Int)} {var : Nat}
    (missing : var ∉ values.map Prod.fst) :
    (run.counted values).frame[var]? = run.frame[var]? := by
  induction values generalizing run with
  | nil => rfl
  | cons first rest hypothesis =>
      rw [List.map_cons, List.mem_cons, not_or] at missing
      have different : ¬ first.1 = var := fun same => missing.1 same.symm
      rw [counted_cons, hypothesis missing.2]
      simp [Run.counted, Std.TreeMap.getElem?_insert, different]

/-- A variable that is given one number has that number, modulo its size. -/
theorem counted_frame (run : Run) {values : List (Nat × Int)}
    (distinct : (values.map Prod.fst).Nodup) {var : Nat} {value : Int}
    (member : (var, value) ∈ values) :
    (run.counted values).frame[var]? = some (.ofScalar (.ofInt ⟨true, .w32⟩ value)) := by
  induction values generalizing run with
  | nil => cases member
  | cons first rest hypothesis =>
      obtain ⟨missing, others⟩ := List.nodup_cons.mp distinct
      rw [counted_cons]
      rcases List.mem_cons.mp member with rfl | later
      · rw [counted_other missing]
        simp [Run.counted]
      · exact hypothesis _ others later

theorem counters_names {vars index : List Nat} (length : vars.length = index.length) :
    (counters vars index).map Prod.fst = vars := by
  simp [counters, List.map_map, Function.comp_def, List.map_fst_zip, length]

/-- The variables of a round can be given small positions, and have them then. -/
theorem counters_run (run : Run) {vars index : List Nat} (distinct : vars.Nodup)
    (length : vars.length = index.length) (small : ∀ position ∈ index, position < 2 ^ 31) :
    (setCounters (counters vars index)).run.run run = (.ok (), run.counted (counters vars index)) ∧
      ∀ pair ∈ vars.zip index, (run.counted (counters vars index)).Counts pair.1 pair.2 := by
  have fits {type : IntType} (signed : type.least ≤ 0) (wide : 2 ^ 31 - 1 ≤ type.greatest)
      {position : Nat} (member : position ∈ index) : type.InRange position := by
    have most := small position member
    constructor <;> omega
  constructor
  · refine setCounters_run fun value member => ?_
    obtain ⟨⟨var, position⟩, among, rfl⟩ := List.mem_map.mp member
    exact fits (by decide) (by decide) (List.of_mem_zip among).2
  · rintro ⟨var, position⟩ among
    have listed : (var, (position : Int)) ∈ counters vars index := List.mem_map_of_mem among
    have set := counted_frame run ((counters_names length).symm ▸ distinct) listed
    exact (Run.counts_iff set).mpr (fits (by decide) (by decide) (List.of_mem_zip among).2)

/-- The position on an axis in the order of the axes is the coordinate on it. -/
theorem mem_zip_coordinate {lineage : Lineage} {vars index : List Nat}
    (length : index.length = lineage.axes.length) {var axis : Nat}
    (member : (var, axis) ∈ vars.zip lineage.axes) :
    (var, lineage.coordinate index axis) ∈ vars.zip index := by
  obtain ⟨position, inZip, same⟩ := List.mem_iff_getElem.mp member
  rw [List.getElem_zip, Prod.mk.injEq] at same
  obtain ⟨rfl, rfl⟩ := same
  rw [List.length_zip] at inZip
  have distinct : lineage.axes.Nodup := (Lineage.axes_ascending _).imp ne_of_lt
  have inIndex : position < index.length := by omega
  rw [Lineage.coordinate_eq length, List.Nodup.idxOf_getElem distinct,
    List.getElem?_eq_getElem inIndex]
  refine List.mem_iff_getElem.mpr ⟨position, by simp; omega, ?_⟩
  rw [List.getElem_zip]
  rfl

end Counters

theorem elementLoop_goesThrough (context : RunContext) (run : Run) {vars : List Nat} {leaf : Nat}
    {body : List Op} (schedule : List (HintKind × HintValue)) {indices : List (List Nat)}
    (active : run.storage.activeIndices leaf = .ok indices) :
    (op context (.elementLoop vars leaf body schedule)).run.run run =
      (goThrough (ops context body) (indices.map (counters vars))).run.run run := by
  rw [elementLoop_run, active, ofExcept_ok, pure_bind]
  simp only [goThrough, List.forM_eq_forM, List.forM_map, ← setCounters_counters]

/-- What the variable of a loop over a range is set to. -/
def counting (var : Nat) (least : Int) (count : Nat) : List (List (Nat × Int)) :=
  (List.range count).map fun (round : Nat) => [(var, least + round)]

theorem counting_succ (var : Nat) (least : Int) (count : Nat) :
    counting var least (count + 1) = [(var, least)] :: counting var (least + 1) count := by
  rw [counting, counting, List.range_succ_eq_map, List.map_cons, List.map_map]
  refine congr (by simp) (List.map_congr_left fun round _ => ?_)
  simp only [Function.comp_apply, Nat.succ_eq_add_one, Nat.cast_add, Nat.cast_one]
  rw [add_assoc, add_comm (1 : Int)]

theorem iterate_eq (var : Nat) (body : Execute Unit) (least : Int) (count : Nat) :
    iterate (fun value => do
      setCounter var value
      body) count least = goThrough body (counting var least count) := by
  induction count generalizing least with
  | zero => rfl
  | succ count hypothesis =>
      rw [iterate, hypothesis, counting_succ]
      simp only [goThrough, List.forM_eq_forM, List.forM_cons, setCounters_singleton]

theorem rangeLoop_goesThrough (context : RunContext) (run : Run) {var first last : Nat}
    {body : List Op} (schedule : List (HintKind × HintValue)) {least most : Int}
    (bounded : bounds context run first last = .ok (least, most)) :
    (op context (.rangeLoop var first last body schedule)).run.run run =
      (goThrough (ops context body) (counting var least (most - least).toNat)).run.run run := by
  rw [rangeLoop_run, bounded, ofExcept_ok, pure_bind, iterate_eq]

/-- The values of a round that counts are the number that it has come to. -/
theorem counting_getElem? {var count position : Nat} {least : Int} {values : List (Nat × Int)}
    (found : (counting var least count)[position]? = some values) :
    position < count ∧ values = [(var, least + position)] := by
  rw [counting, List.getElem?_map, Option.map_eq_some_iff] at found
  obtain ⟨round, listed, rfl⟩ := found
  obtain ⟨below, rfl⟩ := List.getElem?_eq_some_iff.mp listed
  rw [List.length_range] at below
  rw [List.getElem_range]
  exact ⟨below, rfl⟩

end Execute

end FieldKernel
