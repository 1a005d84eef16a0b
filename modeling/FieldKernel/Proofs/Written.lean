import Mathlib
import FieldKernel.Storage.Convert

/-!
# What keeps a text from being written

Most texts can be written.  One that cannot shows a whole number with too many
digits, leads back to itself without end, or asks for the recorded form of
something that has none.  This holds for all forms of expressions, layouts,
statements, lowered code and host values, so that no such fault is mistaken for
another one.
-/

namespace FieldKernel

/-- A fault that writing a text can end with. -/
inductive HostFault.Unwritten : HostFault → Prop where
  | longNumber : Unwritten (.value .longNumber)
  | recursion : Unwritten .recursion
  /-- A statement of no particular kind is asked for its recorded form. -/
  | notImplemented : Unwritten .notImplemented
  /-- A value of another kind is asked for its recorded form. -/
  | formless (className : String) : Unwritten (.missingAttribute className "serialize")

/-- Nothing stands against a text, or several, but faults of a kind. -/
def Barred {α : Type} (faults : HostFault → Prop) (text : Except HostFault α) : Prop :=
  ∀ fault, text = .error fault → faults fault

/-- A text that can be written unless one of the faults of writing stands against it. -/
abbrev Writes {α : Type} (text : Except HostFault α) : Prop :=
  Barred HostFault.Unwritten text

/-- A text that can be written unless a whole number in it has too many digits. -/
abbrev Counts {α : Type} (text : Except HostFault α) : Prop :=
  Barred (· = .value .longNumber) text

namespace Barred

variable {α β : Type} {faults : HostFault → Prop}

theorem ok (result : α) : Barred faults (.ok result) := by
  intro fault failure
  cases failure

theorem error {fault : HostFault} (stands : faults fault) :
    Barred faults (.error fault : Except HostFault α) := by
  intro _ failure
  cases failure
  exact stands

theorem bind {text : Except HostFault α} {next : α → Except HostFault β}
    (first : Barred faults text) (second : ∀ result, Barred faults (next result)) :
    Barred faults (text >>= next) := by
  cases text with
  | error fault =>
      intro _ failure
      cases failure
      exact first fault rfl
  | ok result => exact second result

theorem map {text : Except HostFault α} {change : α → β} (first : Barred faults text) :
    Barred faults (change <$> text) := by
  cases text with
  | error fault => exact .error (first fault rfl)
  | ok result => exact .ok _

theorem mapM {action : α → Except HostFault β} (each : ∀ item, Barred faults (action item))
    (items : List α) : Barred faults (items.mapM action) := by
  induction items with
  | nil => exact ok []
  | cons first rest hypothesis =>
      rw [List.mapM_cons]
      exact (each first).bind fun _ => hypothesis.bind fun _ => ok _

end Barred

theorem Counts.writes {α : Type} {text : Except HostFault α} (counts : Counts text) :
    Writes text := by
  intro fault failure
  obtain rfl := counts fault failure
  exact .longNumber

/-- A text, or several, that can be written if its numbers are short enough, and
only then. -/
structure WritesIf {α : Type} (short : Prop) (text : Except HostFault α) : Prop where
  written : short → ∃ result, text = .ok result
  refused : ¬short → text = .error (.value .longNumber)

namespace WritesIf

variable {α β : Type} {short : Prop}

theorem ok (result : α) : WritesIf True (.ok result) where
  written := fun _ => ⟨result, rfl⟩
  refused := fun impossible => absurd trivial impossible

theorem congr {other : Prop} {text : Except HostFault α} (writes : WritesIf short text)
    (same : short ↔ other) : WritesIf other text where
  written := fun few => writes.written (same.mpr few)
  refused := fun many => writes.refused fun few => many (same.mp few)

theorem bind {later : Prop} {text : Except HostFault α} {next : α → Except HostFault β}
    (first : WritesIf short text) (second : ∀ result, WritesIf later (next result)) :
    WritesIf (short ∧ later) (text >>= next) := by
  by_cases few : short
  · obtain ⟨result, written⟩ := first.written few
    rw [written]
    exact (second result).congr (and_iff_right few).symm
  · rw [first.refused few]
    exact ⟨fun both => absurd both.1 few, fun _ => rfl⟩

/-- What is put around a text does not matter. -/
theorem map {text : Except HostFault α} (first : WritesIf short text) (change : α → β) :
    WritesIf short (text >>= fun written => pure (change written)) :=
  (first.bind fun _ => ok _).congr (and_iff_left trivial)

theorem mapM {each : β → Prop} {write : β → Except HostFault α}
    (writes : ∀ item, WritesIf (each item) (write item)) (items : List β) :
    WritesIf (∀ item ∈ items, each item) (items.mapM write) := by
  induction items with
  | nil => exact (ok []).congr (by simp)
  | cons first rest hypothesis =>
      rw [List.mapM_cons]
      exact ((writes first).bind fun _ => hypothesis.map _).congr (by simp)

end WritesIf

section Endings

variable {α β γ δ : Type}

/-- How an attempt to write something ends, whatever is written. -/
def ending (attempt : Except HostFault α) : Except HostFault Unit :=
  attempt.map fun _ => ()

theorem ending_bind {one : Except HostFault α} {other : Except HostFault β}
    {next : α → Except HostFault γ} {next' : β → Except HostFault δ}
    (first : ending other = ending one)
    (later : ∀ written written', ending (next' written') = ending (next written)) :
    ending (other >>= next') = ending (one >>= next) := by
  cases one with
  | error fault =>
      cases other with
      | error fault' =>
          cases first
          rfl
      | ok written' => cases first
  | ok written =>
      cases other with
      | error fault' => cases first
      | ok written' => exact later written written'

/-- What is put around a text does not matter. -/
theorem ending_map {text : Except HostFault α} (change : α → β) :
    ending (text >>= fun written => pure (change written)) = ending text := by
  cases text with
  | error fault => rfl
  | ok written => rfl

end Endings

theorem Text.isTooLong_iff {value : Int} : isTooLong value ↔ 10 ^ digitLimit ≤ value.natAbs := by
  unfold isTooLong
  generalize digitLimit = limit
  have long (least : 10 ^ limit ≤ value.natAbs) : limit < value.natAbs.log2 + 1 := by
    have nonzero : value.natAbs ≠ 0 := fun zero => by simp [zero] at least
    have binary : 2 ^ limit ≤ value.natAbs :=
      Nat.le_trans (Nat.pow_le_pow_left (by omega) limit) least
    exact Nat.lt_succ_of_le ((Nat.le_log2 nonzero).mpr binary)
  rw [Bool.and_eq_true, decide_eq_true_iff, decide_eq_true_iff]
  exact ⟨And.right, fun least => ⟨long least, least⟩⟩

theorem Text.decimal_writesIf (value : Int) :
    WritesIf (value.natAbs < 10 ^ digitLimit) (decimal value) := by
  unfold decimal
  split
  · next long =>
    have many := isTooLong_iff.mp long
    exact ⟨fun few => absurd few (Nat.not_lt.mpr many), fun _ => rfl⟩
  · next short =>
    exact (WritesIf.ok _).congr (iff_of_true trivial
      (Nat.lt_of_not_le fun many => short (isTooLong_iff.mpr many)))

theorem Text.decimal_counts (value : Int) : Counts (decimal value) := by
  unfold decimal
  split
  · exact .error rfl
  · exact .ok _

/-- A number with no more binary digits than that of any scalar can have. -/
def Text.IsShort (value : Int) : Prop :=
  value.natAbs.log2 < 1024

theorem Text.isShort_of_lt {value : Int} {digits : Nat} (small : value.natAbs < 2 ^ digits)
    (few : digits ≤ 1024) : IsShort value := by
  rcases Nat.eq_zero_or_pos value.natAbs with zero | positive
  · simp [IsShort, zero]
  · exact Nat.lt_of_lt_of_le ((Nat.log2_lt (Nat.ne_of_gt positive)).mpr small) few

/-- Numbers of scalars can be written. -/
theorem Text.IsShort.decimal {value : Int} (short : IsShort value) :
    Text.decimal value = .ok (toString value) := by
  have bits : value.natAbs.log2 < 1024 := short
  have few : ¬digitLimit < value.natAbs.log2 + 1 := by
    have limit : digitLimit = 4300 := rfl
    omega
  simp [Text.decimal, isTooLong, few]

theorem IntType.isShort (type : IntType) {value : Int} (fits : type.InRange value) :
    Text.IsShort value := by
  have small : value.natAbs < 2 ^ 64 := by
    obtain ⟨signed, width⟩ := type
    cases signed <;> cases width <;>
      simp [InRange, least, greatest, Width.bits] at fits <;> omega
  exact Text.isShort_of_lt small (by decide)

theorem mul_two_pow_lt {significand exponent digits greatest : Nat}
    (small : significand < 2 ^ digits) (le : exponent ≤ greatest) :
    significand * 2 ^ exponent < 2 ^ (digits + greatest) := by
  rw [Nat.pow_add]
  exact Nat.mul_lt_mul_of_lt_of_le small (Nat.pow_le_pow_right Nat.two_pos le) (Nat.two_pow_pos _)

/-- The integer part of a double has no more than 1024 binary digits. -/
theorem FloatValue.isShort_truncate {number : Float} {value : Dyadic}
    (finite : ofFloat number = .finite value) : Text.IsShort value.truncate := by
  -- The significand has 53 bits at most, and the exponent is 971 at most.
  have parts : value.significand < 2 ^ 53 ∧ value.exponent ≤ 971 := by
    simp only [ofFloat, ofBits, Nat.pow_eq, Nat.reducePow] at finite
    split at finite
    · split at finite <;> cases finite
    · split at finite
      · cases finite
        exact ⟨by dsimp only; omega, by dsimp only; omega⟩
      · cases finite
        exact ⟨by dsimp only; omega, by dsimp only; omega⟩
  have whole : value.magnitude.1 / value.magnitude.2 < 2 ^ (53 + 971) :=
    calc value.magnitude.1 / value.magnitude.2
      _ ≤ value.magnitude.1 := Nat.div_le_self _ _
      _ = value.significand * 2 ^ value.exponent.toNat := rfl
      _ < 2 ^ (53 + 971) := mul_two_pow_lt parts.1 (Int.toNat_le.mpr parts.2)
  have small : value.truncate.natAbs < 2 ^ (53 + 971) := by
    unfold Dyadic.truncate
    dsimp only
    split
    · rw [Int.natAbs_neg, ← Int.natCast_ediv, Int.natAbs_natCast]
      exact whole
    · rw [← Int.natCast_ediv, Int.natAbs_natCast]
      exact whole
  exact Text.isShort_of_lt small (by decide)

/-- A position or a bound that is computed can be written. -/
theorem Scalar.isShort_index {value : Scalar} {position : Int}
    (computed : value.index = .ok position) : Text.IsShort position := by
  have truncated {number : Float} (computed : toIndex.ofFloat number = .ok position) :
      Text.IsShort position := by
    unfold toIndex.ofFloat at computed
    split at computed
    · next finite =>
      cases computed
      exact FloatValue.isShort_truncate finite
    · cases computed
    · cases computed
  unfold index at computed
  split at computed
  · next found =>
    cases computed
    cases value with
    | bool value =>
        cases found
        have small : (if value then (1 : Int) else 0).natAbs < 2 ^ 1 := by cases value <;> decide
        exact Text.isShort_of_lt small (by decide)
    | int type value fits =>
        cases found
        exact type.isShort fits
    | f32 value => exact truncated found
    | f64 value => exact truncated found
  · cases computed
  · cases computed

theorem Box.isShort_index {box : Box} {position : Int} (computed : box.index = .ok position) :
    Text.IsShort position := by
  unfold index at computed
  split at computed
  · exact Scalar.isShort_index computed
  · cases computed

theorem Literal.text_counts (value : Literal) : Counts value.text := by
  cases value with
  | int value => exact Text.decimal_counts value
  | bool value => cases value <;> exact .ok _
  | float value => exact .ok _

section Expressions

mutual

theorem Expr.text_counts (expr : Expr) : Counts expr.text := by
  cases expr with
  | identifier var => exact .ok _
  | literal key value type => exact value.text_counts
  | binary key op left right =>
      refine left.text_counts.bind fun _ => right.text_counts.bind fun _ => ?_
      cases op.symbol? with
      | none => exact .ok _
      | some symbol => exact .ok _
  | unary key op operand =>
      cases op with
      | _ => exact operand.text_counts.bind fun _ => .ok _
  | cast key operand type => exact operand.text_counts.bind fun _ => .ok _
  | field declared => exact .ok _
  | element key declared indices => exact (Expr.texts_counts indices).bind fun _ => .ok _
  | load key inner declared indices => exact (Expr.texts_counts indices).bind fun _ => .ok _
  | argument key position type => exact (Text.decimal_counts position).bind fun _ => .ok _

theorem Expr.texts_counts (exprs : List Expr) : Counts (Expr.texts exprs) := by
  cases exprs with
  | nil => exact .ok []
  | cons first rest =>
      exact first.text_counts.bind fun _ => (Expr.texts_counts rest).bind fun _ => .ok _

end

mutual

theorem Listing.expr_counts (expr : Expr) : Counts (Listing.expr expr) := by
  cases expr with
  | identifier var => exact .ok _
  | literal key value type => exact value.text_counts.bind fun _ => .ok _
  | binary key op left right =>
      exact (Listing.expr_counts left).bind fun _ => (Listing.expr_counts right).bind fun _ => .ok _
  | unary key op operand => exact (Listing.expr_counts operand).bind fun _ => .ok _
  | cast key operand type => exact (Listing.expr_counts operand).bind fun _ => .ok _
  | field declared => exact .ok _
  | element key declared indices => exact (Listing.exprs_counts indices).bind fun _ => .ok _
  | load key inner declared indices => exact (Listing.exprs_counts indices).bind fun _ => .ok _
  | argument key position type => exact (Text.decimal_counts position).bind fun _ => .ok _

theorem Listing.exprs_counts (exprs : List Expr) : Counts (Listing.exprs exprs) := by
  cases exprs with
  | nil => exact .ok []
  | cons first rest =>
      exact (Listing.expr_counts first).bind fun _ => (Listing.exprs_counts rest).bind fun _ => .ok _

end

end Expressions

section Layouts

theorem Level.boundText_counts (bound : Nat × Nat) : Counts (boundText bound) :=
  (Text.decimal_counts _).bind fun _ => (Text.decimal_counts _).bind fun _ => .ok _

/-- The axes with extents that the text of a level shows. -/
def Level.shown (level : Level) : List (Nat × Nat) :=
  match level.kind with
  | .root => []
  | .place _ => []
  | _ => level.bounds

/-- No axis and no extent on the way down from the root has too many digits. -/
def Node.Legible (node : Node) : Prop :=
  ∀ level ∈ node.lineage, ∀ bound ∈ level.shown,
    bound.1 < 10 ^ Text.digitLimit ∧ bound.2 < 10 ^ Text.digitLimit

theorem Level.boundText_writesIf (bound : Nat × Nat) :
    WritesIf (bound.1 < 10 ^ Text.digitLimit ∧ bound.2 < 10 ^ Text.digitLimit)
      (boundText bound) :=
  (Text.decimal_writesIf bound.1).bind fun _ => (Text.decimal_writesIf bound.2).map _

theorem Level.text_writesIf (level : Level) :
    WritesIf (∀ bound ∈ level.shown,
      bound.1 < 10 ^ Text.digitLimit ∧ bound.2 < 10 ^ Text.digitLimit) level.text := by
  have bounds := WritesIf.mapM boundText_writesIf level.bounds
  unfold Level.text Level.shown
  cases level.kind with
  | root => exact (WritesIf.ok _).congr (by simp)
  | place field => exact (WritesIf.ok _).congr (by simp)
  | dense => exact bounds.map _
  | pointer => exact bounds.map _

/-- What a path shows is what is bound on the way down to its node. -/
theorem Node.path_writesIf (node : Node) : WritesIf node.Legible node.path :=
  (WritesIf.mapM Level.text_writesIf node.lineage).map _

theorem Level.text_counts (level : Level) : Counts level.text := by
  unfold Level.text
  split
  · exact .ok _
  · exact .ok _
  · exact (Barred.mapM boundText_counts level.bounds).bind fun _ => .ok _

theorem Node.path_counts (node : Node) : Counts node.path :=
  (Barred.mapM Level.text_counts node.lineage).bind fun _ => .ok _

theorem Node.text_counts (node : Node) : Counts node.text :=
  node.path_counts.bind fun _ => .ok _

end Layouts

/-- All forms of all values can be written but for the faults of writing. -/
structure Rendering.Writing (rendering : Rendering) : Prop where
  recorded (value : HostValue) : Writes (rendering.recorded value)
  listing (value : HostValue) : Counts (rendering.listing value)

section Values

variable {object : List Listed → HostValue → Except HostFault String}

mutual

theorem HostValue.listingWith_counts (objects : ∀ outer value, Counts (object outer value))
    (outer : List Listed) (value : HostValue) : Counts (value.listingWith object outer) := by
  cases value with
  | none => exact .ok _
  | literal id value => exact value.text_counts
  | text id value => exact .ok _
  | list id items =>
      rw [listingWith]
      split
      · exact .ok _
      · exact (HostValue.listingsWith_counts objects _ items).bind fun _ => .ok _
  | tuple id items =>
      rw [listingWith]
      split
      · exact .ok _
      · exact (HostValue.listingsWith_counts objects _ items).bind fun _ => .ok _
  | mapping names values =>
      exact (HostValue.listingsWith_counts objects outer values).bind fun _ => .ok _
  | expr value => exact Listing.expr_counts value
  | axis id index => exact (Text.decimal_counts index).bind fun _ => .ok _
  | _ => exact objects outer _

theorem HostValue.listingsWith_counts (objects : ∀ outer value, Counts (object outer value))
    (outer : List Listed) (values : List HostValue) :
    Counts (HostValue.listingsWith object outer values) := by
  cases values with
  | nil => exact .ok []
  | cons first rest =>
      exact (HostValue.listingWith_counts objects outer first).bind fun _ =>
        (HostValue.listingsWith_counts objects outer rest).bind fun _ => .ok _

end

theorem groupText_counts (items : List Expr) : Counts (groupText items) :=
  (Expr.texts_counts items).bind fun _ => .ok _

end Values

section Code

variable {rendering : Rendering}

theorem Rendering.Writing.plain (writing : rendering.Writing) (value : HostValue) :
    Counts (rendering.plain value) := by
  unfold Rendering.plain
  split
  · exact .ok _
  · exact Expr.text_counts _
  · exact writing.listing _

theorem HintValue.plain_counts (writing : rendering.Writing) (hint : HintValue) :
    Counts (hint.plain rendering) := by
  cases hint with
  | mode chosen => exact .ok _
  | host value => exact writing.plain value

theorem HintValue.listing_counts (writing : rendering.Writing) (hint : HintValue) :
    Counts (hint.listing rendering) := by
  cases hint with
  | mode chosen => exact .ok _
  | host value => exact writing.listing value

theorem Schedule.text_counts (writing : rendering.Writing) (schedule : Schedule) :
    Counts (schedule.text rendering) := by
  unfold Schedule.text
  split
  · exact .ok _
  · exact (Barred.mapM (fun entry =>
      (entry.2.plain_counts writing).bind fun _ => .ok _) _).bind fun _ => .ok _

theorem Schedule.listing_counts (writing : rendering.Writing) (schedule : Schedule) :
    Counts (schedule.listing rendering) :=
  (Barred.mapM (fun entry =>
    (entry.2.listing_counts writing).bind fun _ => .ok _) schedule.hints).bind fun _ => .ok _

theorem Stmt.branchText_writes (writing : rendering.Writing) (condition : HostValue) :
    Writes (branchText rendering condition) :=
  (writing.recorded condition).bind fun _ => .ok _

theorem Stmt.loopText_counts (writing : rendering.Writing) (vars : List Variable)
    (source : LoopSource) (schedule : Schedule) :
    Counts (loopText rendering vars source schedule) := by
  cases source with
  | range first last =>
      exact first.text_counts.bind fun _ => last.text_counts.bind fun _ =>
        (schedule.text_counts writing).bind fun _ => .ok _
  | elements field => exact (schedule.text_counts writing).bind fun _ => .ok _

theorem Stmt.text_writes (writing : rendering.Writing) (stmt : Stmt) :
    Writes (stmt.text rendering) := by
  cases stmt with
  | alloca site? identifier type => exact .ok _
  | assign site? target value =>
      exact target.text_counts.writes.bind fun _ => value.text_counts.writes.bind fun _ => .ok _
  | load site? place => exact (Expr.text_counts _).writes.bind fun _ => .ok _
  | store site? place value =>
      exact (Expr.text_counts _).writes.bind fun _ => value.text_counts.writes.bind fun _ => .ok _
  | print site? value label =>
      exact (writing.listing label).writes.bind fun _ => (writing.recorded value).bind fun _ => .ok _
  | branch site? condition onTrue onFalse => exact branchText_writes writing condition
  | loop site? vars source schedule body =>
      exact (loopText_counts writing vars source schedule).writes
  | bare site? => exact .error .notImplemented
  | endless => exact .error .recursion

mutual

theorem Stmt.lines_writes (writing : rendering.Writing) (level : Nat) (stmt : Stmt) :
    Writes (stmt.lines rendering level) := by
  cases stmt with
  | branch site? condition onTrue onFalse =>
      exact (Stmt.branchText_writes writing condition).bind fun _ =>
        (Stmt.blockLines_writes writing (level + 1) onTrue).bind fun _ =>
        (Stmt.blockLines_writes writing (level + 1) onFalse).bind fun _ => .ok _
  | loop site? vars source schedule body =>
      exact (Stmt.loopText_counts writing vars source schedule).writes.bind fun _ =>
        (Stmt.blockLines_writes writing (level + 1) body).bind fun _ => .ok _
  | _ => exact (Stmt.text_writes writing _).bind fun _ => .ok _

theorem Stmt.blockLines_writes (writing : rendering.Writing) (level : Nat) (body : List Stmt) :
    Writes (Stmt.blockLines rendering level body) := by
  cases body with
  | nil => exact .ok []
  | cons first rest =>
      exact (Stmt.lines_writes writing level first).bind fun _ =>
        (Stmt.blockLines_writes writing level rest).bind fun _ => .ok _

end

theorem Recording.listing_counts (writing : rendering.Writing) (recording : Recording) (id : Nat) :
    Counts (recording.listing rendering id) := by
  unfold Recording.listing
  cases (recording.statement id).kind with
  | alloca identifier type => exact .ok _
  | assign target value =>
      exact (Listing.expr_counts target).bind fun _ => (Listing.expr_counts value).bind fun _ => .ok _
  | load place => exact (Listing.expr_counts _).bind fun _ => .ok _
  | store place value =>
      exact (Listing.expr_counts _).bind fun _ => (Listing.expr_counts value).bind fun _ => .ok _
  | print value label =>
      exact (writing.listing value).bind fun _ => (writing.listing label).bind fun _ => .ok _
  | branch condition onTrue onFalse open? => exact (writing.listing condition).bind fun _ => .ok _
  | loop vars source body schedule =>
      refine (Listing.exprs_counts _).bind fun _ => ?_
      have shown : Counts (Recording.sourceListing source) := by
        cases source with
        | range first last =>
            exact (Listing.expr_counts first).bind fun _ => (Listing.expr_counts last).bind fun _ =>
              .ok _
        | elements field => exact .ok _
      exact shown.bind fun _ => (schedule.listing_counts writing).bind fun _ => .ok _
  | bare => exact .ok _

theorem NodeOp.payload_counts (type : DataType) (op : NodeOp) : Counts (op.payload? type) := by
  cases op with
  | const value => exact value.text_counts.map
  | argument position => exact (Text.decimal_counts position).map
  | _ => exact .ok _

theorem IRNode.listing_counts (node : IRNode) : Counts node.listing :=
  (NodeOp.payload_counts node.type node.op).bind fun _ => .ok _

theorem Op.hintPairs_counts (writing : rendering.Writing)
    (schedule : List (HintKind × HintValue)) : Counts (hintPairs rendering schedule) :=
  (Barred.mapM (fun entry =>
    (entry.2.listing_counts writing).bind fun _ => .ok _) schedule).bind fun _ => .ok _

mutual

theorem Op.listing_counts (writing : rendering.Writing) (op : Op) :
    Counts (op.listing rendering) := by
  cases op with
  | branch condition onTrue onFalse =>
      exact (Op.listings_counts writing onTrue).bind fun _ =>
        (Op.listings_counts writing onFalse).bind fun _ => .ok _
  | rangeLoop var first last body schedule =>
      exact (Op.listings_counts writing body).bind fun _ =>
        (Op.hintPairs_counts writing schedule).bind fun _ => .ok _
  | elementLoop vars leaf body schedule =>
      exact (Op.listings_counts writing body).bind fun _ =>
        (Op.hintPairs_counts writing schedule).bind fun _ => .ok _
  | print value label => exact (writing.listing label).bind fun _ => .ok _
  | _ => exact .ok _

theorem Op.listings_counts (writing : rendering.Writing) (ops : List Op) :
    Counts (Op.listings rendering ops) := by
  cases ops with
  | nil => exact .ok []
  | cons first rest =>
      exact (Op.listing_counts writing first).bind fun _ =>
        (Op.listings_counts writing rest).bind fun _ => .ok _

end

theorem CompiledKernel.listing_counts (writing : rendering.Writing) (compiled : CompiledKernel) :
    Counts (compiled.listing rendering) := by
  refine Barred.bind ?_ fun _ => .ok _
  exact (Barred.mapM IRNode.listing_counts _).bind fun _ =>
    (Op.listings_counts writing _).bind fun _ => .ok _

end Code

namespace Objects

/-- Listings inside listings end at a depth, where nothing is shown. -/
theorem objectListing_counts (objects : Objects) (depth : Nat) (outer : List Listed)
    (value : HostValue) : Counts (objects.objectListing depth outer value) := by
  induction depth generalizing outer value with
  | zero => exact .ok _
  | succ depth hypothesis =>
      have writing (inner : Listed) : Rendering.Writing ⟨fun _ => .error .recursion,
          HostValue.listingWith (objects.objectListing depth) (inner :: outer)⟩ :=
        ⟨fun _ => .error .recursion,
          HostValue.listingWith_counts hypothesis (inner :: outer)⟩
      cases value with
      | group id => exact (groupText_counts _).bind fun _ => .ok _
      | node ref => exact Node.text_counts _
      | statement id =>
          rw [objectListing]
          split
          · exact .ok _
          · exact objects.recording.listing_counts (writing _) id
      | compiled id =>
          rw [objectListing]
          split
          · split
            · exact .ok _
            · exact CompiledKernel.listing_counts (writing _) _
          · exact .ok _
      | _ => exact .ok _

theorem listing_counts (objects : Objects) (value : HostValue) : Counts (objects.listing value) :=
  HostValue.listingWith_counts (objects.objectListing_counts _) [] value

theorem recordedTo_writes (objects : Objects) (depth : Nat) (value : HostValue) :
    Writes (objects.recordedTo depth value) := by
  induction depth generalizing value with
  | zero => exact .error .recursion
  | succ depth hypothesis =>
      have writing : Rendering.Writing ⟨objects.recordedTo depth, objects.listing⟩ :=
        ⟨hypothesis, objects.listing_counts⟩
      cases value with
      | expr value => exact value.text_counts.writes
      | group id => exact (groupText_counts _).writes
      | statement id => exact Stmt.text_writes writing _
      | block id => exact (Stmt.blockLines_writes writing 0 _).bind fun _ => .ok _
      | _ => exact .error (.formless _)

/-- The forms of host values in a session can be written but for the faults of writing. -/
theorem rendering_writing (objects : Objects) : objects.rendering.Writing :=
  ⟨objects.recordedTo_writes _, objects.listing_counts⟩

end Objects

/-- An error that quotes a text is the error meant, unless the text cannot be
written. -/
theorem Error.quoting_of_writes {holds : Error → Prop} {text : Except HostFault String}
    {error : String → Error} (writes : Writes text) (meant : ∀ text, holds (error text))
    (unwritten : ∀ fault : HostFault, fault.Unwritten → holds (.host fault)) :
    holds (.quoting text error) := by
  cases text with
  | ok text => exact meant text
  | error fault => exact unwritten fault (writes fault rfl)

end FieldKernel
