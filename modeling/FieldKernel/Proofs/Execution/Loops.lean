import FieldKernel.Proofs.Execution.Rounds
import FieldKernel.Proofs.Lowering.Steps
import FieldKernel.Proofs.Storage.Queries

/-!
# Loops

A loop over a field goes through the active elements.  A loop over a range
counts from the first bound on, but its variable has 32 bits: a number that
does not fit is wrapped around, and one that does not even fit in 64 bits ends
the loop.
-/

namespace FieldKernel

section Lowered

variable {lowering : LoweringContext} {site? : Option Location} {schedule : Schedule}
  {body : List Stmt} {state after : Lowering} {operation : Op}

theorem elements_lowered {vars : List Variable} {field : Field}
    (accepted : (Lower.stmt lowering (.loop site? vars (.elements field) schedule body)).Yields
      state operation after) :
    ∃ tree leaf ops, lowering.objects.layouts.leafOf? field = some (tree, leaf) ∧
      vars.length = leaf.lineage.axes.length ∧
      operation = .elementLoop (vars.map (·.identifier.id)) leaf.id ops schedule.entries := by
  simp only [Lower.stmt, Lower.yields_bind, Lower.yields_checkArity, Lower.yields_pure,
    Lower.yields_leafOf] at accepted
  obtain ⟨leaf, _, ⟨tree, placed, _⟩, _, _, ⟨arity, _⟩, _, _, _, ops, _, _, rfl, _⟩ := accepted
  exact ⟨tree, leaf, ops, placed, arity, rfl⟩

theorem range_lowered {var : Variable} {others : List Variable} {first last : Expr}
    (accepted : (Lower.stmt lowering
      (.loop site? (var :: others) (.range first last) schedule body)).Yields
        state operation after) :
    ∃ firstNode lastNode ops,
      operation = .rangeLoop var.identifier.id firstNode lastNode ops schedule.entries := by
  simp only [Lower.stmt, Lower.yields_bind, Lower.yields_checkBound, Lower.yields_pure] at accepted
  obtain ⟨firstNode, _, _, lastNode, _, _, _, _, _, _, _, _, _, _, _, ops, _, _, rfl, _⟩ := accepted
  exact ⟨firstNode, lastNode, ops, rfl⟩

open Execute

/-- A loop goes through the elements of a leaf that are active in the run that
it is entered in. -/
structure VisitsActive (leaf : Node) (vars : List Nat) (body : Execute Unit) (run : Run)
    (indices : List (List Nat)) (rounds : List Round) (outcome : Except Error Unit)
    (final : Run) : Prop where
  ascending : indices.Pairwise (· < ·)
  active (index : List Nat) : index ∈ indices ↔ leaf.InRange (index.map Int.ofNat) ∧
    run.storage.queryActive leaf.id (index.map Int.ofNat) = .ok true
  visits : Visits body run (indices.map (counters vars)) rounds outcome final
  /-- When the body of a round begins, each variable has the coordinate on its axis. -/
  counts {position : Nat} {round : Round} (among : rounds[position]? = some round) :
    ∃ index, indices[position]? = some index ∧ ∀ pair ∈ vars.zip leaf.lineage.axes,
      round.begins.Counts pair.1 (leaf.lineage.coordinate index pair.2)
  complete (completes : outcome = .ok ()) : rounds.length = indices.length
  failing {error : Error} (fails : outcome = .error error) :
    ∃ round, rounds.getLast? = some round ∧ body.run.run round.begins = (.error error, final)

theorem visitsActive_goThrough (body : Execute Unit) {run : Run} {id : Nat} {tree : Tree}
    {leaf : Node} {vars : List Nat} (proper : tree.Proper) (kept : run.storage.Of id tree)
    (member : leaf ∈ tree.declared) (isLeaf : leaf.isLeaf)
    (distinct : vars.Nodup) (arity : vars.length = leaf.lineage.axes.length)
    (small : ∀ extent ∈ leaf.lineage.shape, extent ≤ 2 ^ 31) {indices : List (List Nat)}
    (listed : indices = (Lineage.indices leaf.lineage.shape).filter (run.storage.isActive leaf)) :
    ∃ rounds, VisitsActive leaf vars body run indices rounds
      ((goThrough body (indices.map (counters vars))).run.run run).1
      ((goThrough body (indices.map (counters vars))).run.run run).2 := by
  obtain ⟨rounds, visits⟩ := exists_visits body (indices.map (counters vars)) run
  have inside {position : Nat} {values : List (Nat × Int)}
      (found : (indices.map (counters vars))[position]? = some values) :
      ∃ index, indices[position]? = some index ∧ counters vars index = values ∧
        index ∈ Lineage.indices leaf.lineage.shape := by
    rw [List.getElem?_map, Option.map_eq_some_iff] at found
    obtain ⟨index, found, same⟩ := found
    have among := List.mem_of_getElem? found
    rw [listed, List.mem_filter] at among
    exact ⟨index, found, same, among.1⟩
  have length {index : List Nat} (box : index ∈ Lineage.indices leaf.lineage.shape) :
      index.length = leaf.lineage.axes.length := by
    simpa [Lineage.shape] using Lineage.length_of_mem_indices box
  have sets {index : List Nat} (box : index ∈ Lineage.indices leaf.lineage.shape) (before : Run) :=
    counters_run before distinct (arity.trans (length box).symm)
      (Lineage.lt_of_mem_indices small box)
  refine ⟨rounds, ?ascending, ?active, visits, ?counts, ?complete, ?failing⟩
  case ascending =>
    rw [listed]
    exact (Lineage.indices_ascending _).filter _
  case active =>
    intro index
    rw [listed, List.mem_filter, ← Node.inRange_iff_mem_indices]
    refine and_congr_right fun inRange => ?_
    have checked : Storage.checkIndex leaf (index.map Int.ofNat) = .ok index :=
      Storage.checkIndex_eq_ok.mpr ⟨inRange, by simp [Function.comp_def]⟩
    rw [Storage.queryActive_eq proper kept member isLeaf checked, Except.ok.injEq]
  case counts =>
    intro position round among
    obtain ⟨index, found, values, box⟩ := inside (visits.values_eq among)
    obtain ⟨before, begins⟩ := visits.begins (List.mem_of_getElem? among)
    obtain ⟨succeeds, counts⟩ := sets box before
    rw [← values, succeeds, Prod.mk.injEq] at begins
    refine ⟨index, found, fun pair inZip => ?_⟩
    rw [← begins.2]
    exact counts _ (mem_zip_coordinate (length box) inZip)
  case complete =>
    intro completes
    rw [visits.length_eq completes, List.length_map]
  case failing =>
    intro error fails
    rcases visits.failure fails with broken | ⟨values, before, next, _, refused⟩
    · exact broken
    · obtain ⟨index, _, rfl, box⟩ := inside next
      rw [(sets box before).1] at refused
      cases refused

/-- A loop over a field that was lowered, in any run with a storage of the tree
that the field is placed in: its rounds go through the indices of the elements
that are active when the loop is entered, each of them once and in ascending
order.  The variables have the coordinates on the axes, in ascending order of
the axes.  All indices are gone through unless the body of a round fails, and
the loop fails with it then. -/
theorem elementLoop_visits_active {vars : List Variable} {field : Field} {id : Nat} {tree : Tree}
    {leaf : Node}
    (accepted : (Lower.stmt lowering (.loop site? vars (.elements field) schedule body)).Yields
      state operation after)
    (distinct : (vars.map (·.identifier.id)).Nodup)
    (placed : lowering.objects.layouts.leafOf? field = some (id, leaf))
    (known : lowering.objects.layouts[id]? = some tree) (declared : tree.Declared)
    (small : ∀ extent ∈ leaf.lineage.shape, extent ≤ 2 ^ 31) (context : RunContext) (run : Run)
    (kept : run.storage.Of id tree) :
    vars.length = leaf.lineage.axes.length ∧ leaf.lineage.axes.Pairwise (· < ·) ∧
      ∃ ops indices rounds,
        operation = .elementLoop (vars.map (·.identifier.id)) leaf.id ops schedule.entries ∧
        VisitsActive leaf (vars.map (·.identifier.id)) (Execute.ops context ops) run indices rounds
          ((op context operation).run.run run).1 ((op context operation).run.run run).2 := by
  obtain ⟨_, _, ops, found, arity, rfl⟩ := elements_lowered accepted
  rw [placed, Option.some.injEq, Prod.mk.injEq] at found
  obtain ⟨rfl, rfl⟩ := found
  obtain ⟨_, inTree, held⟩ := Layouts.leafOf?_eq_some placed
  rw [known, Option.some.injEq] at inTree
  cases inTree
  obtain ⟨member, isLeaf⟩ := Tree.mem_of_leafOf? held
  have proper := declared.proper
  obtain ⟨rounds, visits⟩ := visitsActive_goThrough (Execute.ops context ops) proper kept member
    isLeaf distinct (by rw [List.length_map, arity]) small rfl
  rw [← elementLoop_goesThrough context run schedule.entries
    (kept.activeIndices_eq proper member isLeaf)] at visits
  exact ⟨arity, Lineage.axes_ascending _, ops, _, rounds, rfl, visits⟩

end Lowered

namespace Blocks

def first : Variable :=
  ⟨1, ⟨1, some "i"⟩⟩

def objects : Objects :=
  ⟨.empty, #[], #[tree], #[], #[]⟩

def lowering : LoweringContext :=
  ⟨.x86, [], objects, ∅⟩

/-- For every active element the first element is set to its position, which
makes other elements active, and then the loop variable is set to 7. -/
def loop : Stmt :=
  .loop none [first] (.elements field) .empty
    [.assign none (.element 2 field [.literal 3 (.int 0) .i32]) (.identifier first),
      .assign none (.identifier first) (.literal 4 (.int 7) .i32)]

def lowered : Except Error Op × Lowering :=
  (Lower.stmt lowering loop).run.run (.start .empty)

def context : RunContext :=
  ⟨lowered.2.nodes, lowered.2.varTypes.toList, [], objects.rendering⟩

/-- The loop is run after the element 5 was written. -/
theorem loop_visits_active :
    ∃ storage operation, Storage.ofTree 0 tree Tree.root = .ok storage ∧
      lowered.1 = .ok operation ∧
      ∃ ops indices rounds, operation = .elementLoop [1] leaf.id ops [] ∧
        VisitsActive leaf [1] (Execute.ops context ops) ⟨storage.serveAll requests, ∅, #[]⟩
          indices rounds
          ((Execute.op context operation).run.run ⟨storage.serveAll requests, ∅, #[]⟩).1
          ((Execute.op context operation).run.run ⟨storage.serveAll requests, ∅, #[]⟩).2 := by
  have made : Storage.ofTree 0 tree Tree.root = .ok _ := rfl
  have kept := (Storage.alike_serveAll requests).of (Storage.of_ofTree made)
  obtain ⟨operation, yields⟩ : ∃ operation, lowered.1 = .ok operation :=
    exists_ok (by decide +kernel)
  have accepted : (Lower.stmt lowering loop).Yields (.start .empty) operation lowered.2 :=
    Prod.ext yields rfl
  have small : ∀ extent ∈ leaf.lineage.shape, extent ≤ 2 ^ 31 := by
    rw [shape]
    decide
  exact ⟨_, operation, made, yields, (elementLoop_visits_active accepted (by decide) rfl rfl
    declared small context ⟨_, ∅, #[]⟩ kept).2.2⟩

end Blocks

section Lowered

variable {lowering : LoweringContext} {site? : Option Location} {schedule : Schedule}
  {body : List Stmt} {state after : Lowering} {operation : Op}

open Execute

/-- A loop counts through a range. -/
structure VisitsRange (var : Nat) (least most : Int) (body : Execute Unit) (run : Run)
    (rounds : List Round) (outcome : Except Error Unit) (final : Run) : Prop where
  visits : Visits body run (counting var least (most - least).toNat) rounds outcome final
  /-- The variable has the number of the round modulo its size when the body begins. -/
  set {position : Nat} {round : Round} (among : rounds[position]? = some round) :
    round.begins.frame[var]? = some (.ofScalar (.ofInt ⟨true, .w32⟩ (least + position)))
  /-- It has the number itself if 32 bits can hold the number. -/
  counts {position : Nat} {round : Round} (among : rounds[position]? = some round) :
    round.begins.Counts var (least + position) ↔ IntType.InRange ⟨true, .w32⟩ (least + position)
  /-- No round begins with a number that 64 bits cannot hold. -/
  fits {position : Nat} {round : Round} (among : rounds[position]? = some round) :
    IntType.InRange ⟨true, .w64⟩ (least + position)
  complete (completes : outcome = .ok ()) : rounds.length = (most - least).toNat
  failing {error : Error} (fails : outcome = .error error) :
    (∃ round, rounds.getLast? = some round ∧
        body.run.run round.begins = (.error error, final)) ∨
      (rounds.length < (most - least).toNat ∧
        (∀ round ∈ rounds, body.run.run round.begins = (.ok (), round.ends)) ∧
        ¬ IntType.InRange ⟨true, .w64⟩ (least + rounds.length) ∧
        error = .run (.doesNotFit (toString (least + rounds.length)) .i32
          (.wide (toString (least + rounds.length)))))

theorem visitsRange_goThrough (body : Execute Unit) (run : Run) (var : Nat) {least : Int}
    (most : Int) (short : Text.IsShort least) :
    ∃ rounds, VisitsRange var least most body run rounds
      ((goThrough body (counting var least (most - least).toNat)).run.run run).1
      ((goThrough body (counting var least (most - least).toNat)).run.run run).2 := by
  obtain ⟨rounds, visits⟩ := exists_visits body (counting var least (most - least).toNat) run
  have begun {position : Nat} {round : Round} (among : rounds[position]? = some round) :
      IntType.InRange ⟨true, .w64⟩ (least + position) ∧
        round.begins.frame[var]? = some (.ofScalar (.ofInt ⟨true, .w32⟩ (least + position))) := by
    obtain ⟨before, begins⟩ := visits.begins (List.mem_of_getElem? among)
    rw [(counting_getElem? (visits.values_eq among)).2, setCounters_singleton, setCounter_run]
      at begins
    split at begins
    · next fits =>
      rw [Prod.mk.injEq] at begins
      refine ⟨fits, ?_⟩
      rw [← begins.2]
      exact counted_frame before (by simp) (by simp)
    · cases begins
  refine ⟨rounds, visits, fun among => (begun among).2, ?counts, fun among => (begun among).1,
    ?complete, ?failing⟩
  case counts =>
    intro position round among
    exact Run.counts_iff (begun among).2
  case complete =>
    intro completes
    rw [visits.length_eq completes, counting, List.length_map, List.length_range]
  case failing =>
    intro error fails
    rcases visits.failure fails with broken | ⟨values, before, next, completed, refused⟩
    · exact .inl broken
    · obtain ⟨below, rfl⟩ := counting_getElem? next
      rw [setCounters_singleton, setCounter_run] at refused
      split at refused
      · cases refused
      · next wide =>
        rw [Prod.mk.injEq, Except.error.injEq] at refused
        -- The number before the refused one fitted, so that the refused one is short.
        have short : Text.IsShort (least + rounds.length) := by
          rcases Nat.eq_zero_or_pos rounds.length with none | some
          · simpa [none] using short
          · have fits := (begun (List.getElem?_eq_getElem (Nat.sub_one_lt_of_lt some))).1
            have small : (least + rounds.length).natAbs < 2 ^ 64 := by
              simp [IntType.InRange, IntType.least, IntType.greatest, Width.bits] at fits
              omega
            exact Text.isShort_of_lt small (by decide)
        refine .inr ⟨below, completed, wide, ?_⟩
        rw [← refused.1, Literal.wide, short.decimal]
        rfl

/-- A loop over a range that was lowered, in any run: its bounds are computed in
the run that it is entered in, and its rounds count from the first bound on.
The variable has the number of the round when its body begins, modulo the size
of 32 bits.  All numbers below the last bound are gone through unless the body
of a round fails, and the loop fails with it then, or 64 bits cannot hold the
number of the next round. -/
theorem rangeLoop_visits_range {var : Variable} {others : List Variable} {first last : Expr}
    (accepted : (Lower.stmt lowering
      (.loop site? (var :: others) (.range first last) schedule body)).Yields
        state operation after) (context : RunContext) (run : Run) :
    ∃ firstNode lastNode ops,
      operation = .rangeLoop var.identifier.id firstNode lastNode ops schedule.entries ∧
      ∀ least most, bounds context run firstNode lastNode = .ok (least, most) →
        ∃ rounds, VisitsRange var.identifier.id least most (Execute.ops context ops) run rounds
          ((op context operation).run.run run).1 ((op context operation).run.run run).2 := by
  obtain ⟨firstNode, lastNode, ops, rfl⟩ := range_lowered accepted
  refine ⟨firstNode, lastNode, ops, rfl, fun least most bounded => ?_⟩
  rw [rangeLoop_goesThrough context run schedule.entries bounded]
  exact visitsRange_goThrough (Execute.ops context ops) run var.identifier.id most
    (isShort_bounds bounded)

end Lowered

namespace Wide

def first : Variable :=
  ⟨1, ⟨1, some "i"⟩⟩

/-- A field without axes. -/
def last : Field :=
  ⟨2, ⟨0, some "a"⟩, .i64⟩

def tree : Tree :=
  { ((Tree.new none).add Tree.root (.place last) []).1 with isSealed := true }

def leaf : Node :=
  ⟨[⟨0, .root, []⟩], ⟨1, .place last, []⟩⟩

def objects : Objects :=
  ⟨.empty, #[], #[tree], #[], #[]⟩

def lowering : LoweringContext :=
  ⟨.x86, [.i64, .i64], objects, ∅⟩

/-- The numbers from one argument to the other are kept in the field. -/
def loop : Stmt :=
  .loop none [first] (.range (.argument 3 0 .i64) (.argument 4 1 .i64)) .empty
    [.assign none (.element 5 last []) (.identifier first)]

def lowered : Except Error Op × Lowering :=
  (Lower.stmt lowering loop).run.run (.start .empty)

/-- The arguments are the least number that 32 bits cannot hold, and the next one. -/
def context : RunContext :=
  ⟨lowered.2.nodes, lowered.2.varTypes.toList,
    [.ofScalar (.ofInt ⟨true, .w64⟩ (2 ^ 31)), .ofScalar (.ofInt ⟨true, .w64⟩ (2 ^ 31 + 1))],
    objects.rendering⟩

def run : Run :=
  ⟨⟨some 0, [leaf], [], ∅, ∅⟩, ∅, #[]⟩

theorem loop_visits_range :
    ∃ operation firstNode lastNode ops, lowered.1 = .ok operation ∧
      operation = .rangeLoop 1 firstNode lastNode ops [] ∧
      Execute.bounds context run firstNode lastNode = .ok (2 ^ 31, 2 ^ 31 + 1) ∧
      ∃ rounds, VisitsRange 1 (2 ^ 31) (2 ^ 31 + 1) (Execute.ops context ops) run rounds
        ((Execute.op context operation).run.run run).1
        ((Execute.op context operation).run.run run).2 := by
  have computes : lowered.1.toOption.any (fun
      | .rangeLoop _ firstNode lastNode _ _ =>
        (Execute.bounds context run firstNode lastNode).toOption.any (· = (2 ^ 31, 2 ^ 31 + 1))
      | _ => false) = true := by
    decide +kernel
  obtain ⟨operation, yields, bounded⟩ := exists_ok_of_any computes
  have accepted : (Lower.stmt lowering loop).Yields (.start .empty) operation lowered.2 :=
    Prod.ext yields rfl
  obtain ⟨firstNode, lastNode, ops, rfl, visits⟩ := rangeLoop_visits_range accepted context run
  obtain ⟨range, found, same⟩ := exists_ok_of_any bounded
  rw [of_decide_eq_true same] at found
  exact ⟨_, firstNode, lastNode, ops, yields, rfl, found, visits _ _ found⟩

/-- The only round has to begin with the least number that 32 bits cannot hold,
but the field has another number after it. -/
theorem loop_wraps :
    ∃ operation, lowered.1 = .ok operation ∧
      ((Execute.op context operation).run.run run).1.isOk = true ∧
      (((Execute.op context operation).run.run run).2.storage.get leaf []).toIndex.toOption =
        some (-2 ^ 31) := by
  have wraps : lowered.1.toOption.any (fun operation =>
      ((Execute.op context operation).run.run run).1.isOk &&
        (((Execute.op context operation).run.run run).2.storage.get leaf []).toIndex.toOption =
          some (-2 ^ 31)) = true := by
    decide +kernel
  obtain ⟨operation, yields, both⟩ := exists_ok_of_any wraps
  simp only [Bool.and_eq_true, decide_eq_true_eq] at both
  exact ⟨operation, yields, both⟩

end Wide

end FieldKernel
