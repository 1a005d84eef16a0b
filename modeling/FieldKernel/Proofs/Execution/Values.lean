import FieldKernel.Execution.Run
import FieldKernel.Proofs.Meaning.Types
import FieldKernel.Proofs.Recording.Builds

/-!
# Types of values

All scalars of a box have the type of the box, and every operator gives the
type that lowering expects of it.  What a computation delivers is described
together with the errors it may end in: none of them is that of an access with
a wrong number of indices.
-/

namespace FieldKernel

/-- An error that is not about the number of indices of an access. -/
def Error.FitsAxes (error : Error) : Prop :=
  ∀ path needed count, error ≠ .arity (.access path needed count)

theorem Error.FitsAxes.quoting {text : Except HostFault String} {error : String → Error}
    (meant : ∀ text, (error text).FitsAxes) : (quoting text error).FitsAxes := by
  cases text with
  | ok text => exact meant text
  | error fault => simp [Error.quoting, Error.FitsAxes]

/-- An outcome is a result of a kind, or an error that is not about the number
of indices of an access. -/
structure Delivers {α : Type} (kind : α → Prop) (outcome : Except Error α) : Prop where
  result {value : α} (delivered : outcome = .ok value) : kind value
  fitsAxes {error : Error} (failed : outcome = .error error) : error.FitsAxes

/-- An operator has no result, or one of a kind. -/
def Gives {α : Type} (kind : α → Prop) (result? : Option α) : Prop :=
  ∀ result, result? = some result → kind result

/-- A way to describe the results of attempts that goes along with what follows
on an attempt. -/
structure Describes (m : Type → Type) [Monad m]
    (ends : {α : Type} → (α → Prop) → m α → Prop) : Prop where
  pure {α : Type} {kind : α → Prop} {result : α} (holds : kind result) : ends kind (pure result)
  bind {α β : Type} {kind : α → Prop} {later : β → Prop} {attempt : m α} {next : α → m β}
    (first : ends kind attempt) (second : ∀ result, kind result → ends later (next result)) :
    ends later (attempt >>= next)

namespace Delivers

variable {α β : Type} {kind : α → Prop} {later : β → Prop}

theorem ok {result : α} (holds : kind result) : Delivers kind (.ok result) where
  result delivered := by
    cases delivered
    exact holds
  fitsAxes failed := by cases failed

theorem error {error : Error} (fits : error.FitsAxes) :
    Delivers kind (.error error : Except Error α) where
  result delivered := by cases delivered
  fitsAxes failed := by
    cases failed
    exact fits

theorem bind {outcome : Except Error α} {next : α → Except Error β}
    (first : Delivers kind outcome) (second : ∀ result, kind result → Delivers later (next result)) :
    Delivers later (outcome >>= next) := by
  cases outcome with
  | error error => exact .error (first.fitsAxes rfl)
  | ok result => exact second result (first.result rfl)

theorem weaken {weaker : α → Prop} {outcome : Except Error α} (delivers : Delivers kind outcome)
    (holds : ∀ result, kind result → weaker result) : Delivers weaker outcome :=
  ⟨fun delivered => holds _ (delivers.result delivered), delivers.fitsAxes⟩

/-- A fault of the host is about no access. -/
theorem host (outcome : Except HostFault α) :
    Delivers (fun _ => True) (outcome.mapError Error.host) := by
  cases outcome with
  | ok _ => exact .ok trivial
  | error _ => exact .error (by simp [Error.FitsAxes])

theorem describes : Describes (Except Error) Delivers :=
  ⟨ok, bind⟩

end Delivers

namespace Gives

theorem some {α : Type} {kind : α → Prop} {result : α} (holds : kind result) :
    Gives kind (some result) := by
  intro other same
  cases same
  exact holds

theorem none {α : Type} {kind : α → Prop} : Gives kind (none : Option α) := by
  intro result same
  cases same

theorem describes : Describes Option Gives where
  pure := some
  bind := by
    intro α β kind later attempt next first second
    cases attempt with
    | none => exact none
    | some result => exact second result (first result rfl)

end Gives

namespace Describes

variable {m : Type → Type} [Monad m] {ends : {α : Type} → (α → Prop) → m α → Prop}
  {α β : Type}

theorem map [LawfulMonad m] (describes : Describes m ends) {kind : α → Prop} {later : β → Prop} {attempt : m α}
    {change : α → β} (first : ends kind attempt)
    (holds : ∀ result, kind result → later (change result)) : ends later (change <$> attempt) := by
  rw [map_eq_pure_bind]
  exact describes.bind first fun result known => describes.pure (holds result known)

theorem mapM [LawfulMonad m] (describes : Describes m ends) (kind : β → Prop) {action : α → m β}
    (items : List α) (each : ∀ item ∈ items, ends kind (action item)) :
    ends (fun results => results.length = items.length ∧ ∀ result ∈ results, kind result)
      (items.mapM action) := by
  induction items with
  | nil => exact describes.pure (by simp)
  | cons first rest hypothesis =>
      rw [List.mapM_cons]
      refine describes.bind (each first (by simp)) fun result holds => ?_
      refine describes.bind (hypothesis fun item member => each item (by simp [member])) ?_
      rintro results ⟨length, others⟩
      exact describes.pure (by simpa [length] using ⟨holds, others⟩)

mutual

theorem gridMapM [LawfulMonad m] (describes : Describes m ends) {kind : β → Prop}
    {action : α → m β} (grid : Grid α) (each : ∀ value ∈ grid.toList, ends kind (action value)) :
    ends (fun result => ∀ value ∈ result.toList, kind value) (grid.mapM action) := by
  cases grid with
  | value only =>
      exact describes.map (each only (by simp [Grid.toList])) fun result holds =>
        by simpa [Grid.toList] using holds
  | row rows =>
      exact describes.map (gridMapRowsM describes rows each) fun result holds =>
        by simpa [Grid.toList] using holds

theorem gridMapRowsM [LawfulMonad m] (describes : Describes m ends) {kind : β → Prop}
    {action : α → m β} (rows : List (Grid α)) (each : ∀ value ∈ Grid.rowsToList rows, ends kind (action value)) :
    ends (fun result => ∀ value ∈ Grid.rowsToList result, kind value)
      (Grid.mapRowsM action rows) := by
  cases rows with
  | nil => exact describes.pure (by simp [Grid.rowsToList])
  | cons first rest =>
      have one := gridMapM describes first fun value member =>
        each value (by simp [Grid.rowsToList, member])
      have others := gridMapRowsM describes rest fun value member =>
        each value (by simp [Grid.rowsToList, member])
      refine describes.bind one fun result holds => describes.bind others fun results known => ?_
      refine describes.pure fun value member => ?_
      rw [Grid.rowsToList, List.mem_append] at member
      exact member.elim (holds value) (known value)

end

end Describes

namespace Grid

variable {α β γ : Type} {kind : γ → Prop} {combine : α → β → Option γ}

theorem mem_rowsToList {rows : List (Grid α)} {value : α} :
    value ∈ rowsToList rows ↔ ∃ grid ∈ rows, value ∈ grid.toList := by
  induction rows with
  | nil => simp [rowsToList]
  | cons first rest hypothesis => simp [rowsToList, hypothesis]

theorem mem_of_pairs? {lefts : List α} {rights : List β} {pairs : List (α × β)}
    (paired : pairs? lefts rights = some pairs) :
    ∀ pair ∈ pairs, pair.1 ∈ lefts ∧ pair.2 ∈ rights := by
  unfold pairs? at paired
  intro pair member
  split at paired
  · cases paired
    obtain ⟨right, among, rfl⟩ := List.mem_map.mp member
    exact ⟨by simp, among⟩
  · cases paired
    obtain ⟨left, among, rfl⟩ := List.mem_map.mp member
    exact ⟨among, by simp⟩
  · split at paired
    · cases paired
      exact List.of_mem_zip member
    · cases paired

/-- What is combined of two boxes is combined of a value of each. -/
theorem zipBoxes?_gives (axes : Nat) (left : Grid α) (right : Grid β)
    (each : ∀ one ∈ left.toList, ∀ other ∈ right.toList, Gives kind (combine one other)) :
    Gives (fun result => ∀ value ∈ result.toList, kind value)
      (zipBoxes? combine axes left right) := by
  induction axes generalizing left right with
  | zero =>
      cases left with
      | row lefts => exact .none
      | value one =>
          cases right with
          | row rights => exact .none
          | value other =>
              exact Gives.describes.map (each one (by simp [toList]) other (by simp [toList]))
                fun result holds => by simpa [toList] using holds
  | succ axes hypothesis =>
      cases left with
      | value one => exact .none
      | row lefts =>
          cases right with
          | value other => exact .none
          | row rights =>
              have paired : Gives (fun pairs => ∀ pair ∈ pairs, pair.1 ∈ lefts ∧ pair.2 ∈ rights)
                  (pairs? lefts rights) := fun _ => mem_of_pairs?
              refine Gives.describes.bind paired fun pairs among => ?_
              refine Gives.describes.map (Gives.describes.mapM
                (fun result => ∀ value ∈ result.toList, kind value) pairs ?_) ?_
              · rintro ⟨one, other⟩ member
                exact hypothesis one other fun left inLeft right inRight =>
                  each left (mem_rowsToList.mpr ⟨one, (among _ member).1, inLeft⟩) right
                    (mem_rowsToList.mpr ⟨other, (among _ member).2, inRight⟩)
              · rintro results ⟨_, holds⟩ value member
                rw [toList, mem_rowsToList] at member
                obtain ⟨grid, inside, held⟩ := member
                exact holds grid inside value held

theorem zip?_gives (left : Grid α) (right : Grid β)
    (each : ∀ one ∈ left.toList, ∀ other ∈ right.toList, Gives kind (combine one other)) :
    Gives (fun result => ∀ value ∈ result.toList, kind value) (zip? combine left right) := by
  unfold zip?
  split
  · exact Gives.describes.gridMapM _ fun value member => each _ (by simp [toList]) value member
  · exact Gives.describes.gridMapM _ fun value member => each value member _ (by simp [toList])
  · exact zipBoxes?_gives _ _ _ each

end Grid

namespace Scalar

theorem type_known (value : Scalar) : value.type ≠ .unknown := by
  cases value <;> simp [type]

theorem zero?_gives (type : DataType) : Gives (fun zero => zero.type = type) (zero? type) := by
  cases type with
  | unknown => exact .none
  | _ => exact .some rfl

theorem comparison?_gives (op : BinaryOp) (less equal greater : Bool) :
    Gives (fun result => op.isComparison ∧ result.type = .i32) (comparison? op less equal greater) := by
  cases op with
  | less | lessEqual | greater | greaterEqual | equal | notEqual => exact .some ⟨rfl, rfl⟩
  | _ => exact .none

/-- A comparison of operands of any type answers in the type that lowering
gives to the node. -/
theorem comparison?_computed {op : BinaryOp} {less equal greater : Bool} (type : DataType) :
    Gives (fun result => result.type = op.computedType type)
      (comparison? op less equal greater) := by
  intro result same
  obtain ⟨compares, answers⟩ := comparison?_gives op less equal greater result same
  rw [answers, BinaryOp.computedType, if_pos compares]

theorem boolBinary?_gives (op : BinaryOp) (left right : Bool) :
    Gives (fun result => result.type = op.computedType .u1) (boolBinary? op left right) := by
  cases op with
  | max | min | bitAnd | bitOr | bitXor => exact .some rfl
  | _ =>
      rw [boolBinary?.eq_def]
      exact comparison?_computed .u1

/-- A number that was computed gets the type of the operands. -/
theorem computed_gives {α : Type} {op : BinaryOp} (computes : ¬ op.isComparison) {type : DataType}
    {wrap : α → Scalar} (wraps : ∀ value, (wrap value).type = type) (number? : Option α) :
    Gives (fun result => result.type = op.computedType type) (number?.map wrap) := by
  intro result same
  obtain ⟨number, _, rfl⟩ := Option.map_eq_some_iff.mp same
  rw [wraps, BinaryOp.computedType, if_neg computes]

/-- The result on operands of one type has the type that lowering gives to the
node. -/
theorem binary?_gives (op : BinaryOp) (left right : Scalar) :
    Gives (fun result => result.type = op.computedType left.type) (binary? op left right) := by
  cases left with
  | bool one =>
      cases right with
      | bool other => exact boolBinary?_gives op one other
      | _ => exact .none
  | int type one _ =>
      cases right with
      | int otherType other _ =>
          rw [binary?, intBinary?]
          split
          · split
            · exact comparison?_computed _
            · next computes => exact computed_gives computes (by exact fun _ => rfl) _
          · exact .none
      | _ => exact .none
  | f32 one =>
      cases right with
      | f32 other =>
          rw [binary?, floatComparison?]
          split
          · exact comparison?_computed _
          · next computes => exact computed_gives computes (by exact fun _ => rfl) _
      | _ => exact .none
  | f64 one =>
      cases right with
      | f64 other =>
          rw [binary?, floatComparison?]
          split
          · exact comparison?_computed _
          · next computes => exact computed_gives computes (by exact fun _ => rfl) _
      | _ => exact .none

theorem unary?_gives (op : UnaryOp) (value : Scalar) :
    Gives (fun result => result.type = op.computedType value.type) (unary? op value) := by
  by_cases negates : op = .logicNot
  · subst negates
    cases value <;> exact .some rfl
  · have kept (type : DataType) : op.computedType type = type := if_neg negates
    rw [kept]
    have wrapped {α : Type} {type : DataType} {wrap : α → Scalar}
        (wraps : ∀ number, (wrap number).type = type) (number? : Option α) :
        Gives (fun result => result.type = type) (number?.map wrap) := by
      intro result same
      obtain ⟨number, _, rfl⟩ := Option.map_eq_some_iff.mp same
      exact wraps number
    cases value with
    | bool value =>
        cases op with
        | floor | ceil | bitNot => exact .some rfl
        | logicNot => contradiction
        | _ => exact .none
    | int type value fits =>
        cases op with
        | logicNot => contradiction
        | _ =>
            rw [unary?.eq_def]
            exact wrapped (by exact fun _ => rfl) _
    | f32 value =>
        cases op with
        | logicNot => contradiction
        | _ =>
            rw [unary?.eq_def]
            exact wrapped (by exact fun _ => rfl) _
    | f64 value =>
        cases op with
        | logicNot => contradiction
        | _ =>
            rw [unary?.eq_def]
            exact wrapped (by exact fun _ => rfl) _

theorem convert_delivers (value : Scalar) (type : DataType) :
    Delivers (fun result => result.type = type) (value.convert type) := by
  unfold convert
  split
  · next converted => exact .ok (type_of_convert? converted)
  · exact .error (by simp [Error.FitsAxes])

theorem index_delivers (value : Scalar) : Delivers (fun _ => True) value.index := by
  unfold index
  split
  · exact .ok trivial
  · exact .error (by simp [Error.FitsAxes])
  · exact .error (by simp [Error.FitsAxes])

end Scalar

theorem Literal.convert_delivers (value : Literal) (type : DataType) :
    Delivers (fun result => result.type = type) (value.convert type) := by
  unfold Literal.convert
  split
  · exact Scalar.convert_delivers _ _
  · exact .error (.quoting (by simp [Error.FitsAxes]))
  · exact .error (by simp [Error.FitsAxes])

namespace Box

/-- A box of scalars of a type.  Nothing has the unknown type. -/
structure HasType (box : Box) (type : DataType) : Prop where
  tag : box.type = type
  known : type ≠ .unknown
  scalars : ∀ scalar ∈ box.grid.toList, scalar.type = type

variable {box left right : Box} {type : DataType}

theorem ofScalar_hasType {value : Scalar} (ofType : value.type = type) :
    (ofScalar value).HasType type where
  tag := ofType
  known := ofType ▸ value.type_known
  scalars := by simpa [ofScalar, Grid.toList] using ofType

/-- An operator is made for operands of one type only, so the type of the left
one tells that of the result. -/
theorem binary?_gives (op : BinaryOp) (ofLeft : left.HasType type) :
    Gives (fun result => result.HasType (op.computedType type)) (binary? op left right) := by
  refine Gives.describes.bind (Scalar.zero?_gives _) fun one ofOne => ?_
  refine Gives.describes.bind (Scalar.zero?_gives _) fun other _ => ?_
  refine Gives.describes.bind (Scalar.binary?_gives op one other) fun sample ofSample => ?_
  rw [ofOne, ofLeft.tag] at ofSample
  have combined := Grid.zip?_gives left.grid right.grid fun scalar inLeft other _ result same =>
    (Scalar.binary?_gives op scalar other result same).trans
      (congrArg op.computedType (ofLeft.scalars scalar inLeft))
  refine Gives.describes.bind combined fun grid ofGrid => .some ⟨ofSample, ?_, ofGrid⟩
  exact ofSample ▸ sample.type_known

theorem unary?_gives (op : UnaryOp) (ofBox : box.HasType type) :
    Gives (fun result => result.HasType (op.computedType type)) (unary? op box) := by
  refine Gives.describes.bind (Scalar.zero?_gives _) fun zero ofZero => ?_
  refine Gives.describes.bind (Scalar.unary?_gives op zero) fun sample ofSample => ?_
  rw [ofZero, ofBox.tag] at ofSample
  have mapped := Gives.describes.gridMapM box.grid fun scalar inBox result same =>
    (Scalar.unary?_gives op scalar result same).trans
      (congrArg op.computedType (ofBox.scalars scalar inBox))
  refine Gives.describes.bind mapped fun grid ofGrid => .some ⟨ofSample, ?_, ofGrid⟩
  exact ofSample ▸ sample.type_known

theorem ofGrid_delivers (grid : Grid Scalar) (type : DataType) :
    Delivers (fun result => result.HasType type) (ofGrid grid type) := by
  unfold ofGrid
  split
  · exact .error (by simp [Error.FitsAxes])
  · next known =>
    refine Delivers.describes.bind (Delivers.describes.gridMapM grid fun scalar _ =>
      scalar.convert_delivers type) fun converted ofGrid => ?_
    exact .ok ⟨rfl, known, ofGrid⟩

theorem convert_delivers (box : Box) (type : DataType) :
    Delivers (fun result => result.HasType type) (box.convert type) :=
  ofGrid_delivers box.grid type

theorem index_delivers (box : Box) : Delivers (fun _ => True) box.index := by
  unfold index
  split
  · exact Scalar.index_delivers _
  · exact .error (by simp [Error.FitsAxes])

theorem element_delivers (ofBox : box.HasType type) :
    Delivers (fun result => result.type = type) box.element := by
  have scalars := ofBox.scalars
  unfold element
  split
  · next only same => exact .ok (scalars only (by simp [same, Grid.toList]))
  · exact .error (by simp [Error.FitsAxes])

theorem item_delivers (box : Box) : Delivers (fun _ => True) box.item := by
  unfold item
  split
  · exact .ok trivial
  · exact .error (by simp [Error.FitsAxes])

theorem isTrue_delivers (box : Box) : Delivers (fun _ => True) box.isTrue := by
  unfold isTrue
  split
  · exact .ok trivial
  · exact .error (by simp [Error.FitsAxes])
  · exact .error (by simp [Error.FitsAxes])

end Box

namespace Ask

variable {objects : Objects}

/-- A value of the host is converted to scalars of the type that is asked for. -/
theorem scalars_hasType {value : HostValue} {type : DataType} {box : Box}
    (answered : scalars value type objects = .ok box) : box.HasType type := by
  obtain ⟨numbers, _, answered⟩ := bind_eq_ok.mp answered
  split at answered
  · next number _ =>
    rw [map_eq_pure_bind] at answered
    obtain ⟨scalar, converted, made⟩ := bind_eq_ok.mp answered
    cases made
    exact Box.ofScalar_hasType ((number.convert_delivers type).result converted)
  · rcases converted : numbers.mapM (Literal.inRow (Literal.anyFloat numbers.toList)) with
      fault | scalars
    · rw [converted] at answered
      obtain ⟨listed, _, thrown⟩ := bind_eq_ok.mp answered
      cases thrown
    · rw [converted] at answered
      exact (Box.ofGrid_delivers scalars type).result answered

end Ask

/-- Whatever stands in the way of a printed line, it is no access. -/
theorem RunContext.printed_delivers (context : RunContext) (label : HostValue) (value : Box) :
    Delivers (fun _ => True) (context.printed label value) :=
  (Delivers.host _).bind fun _ _ =>
    value.item_delivers.bind fun _ _ => (Delivers.host _).bind fun _ _ => .ok trivial

theorem RunContext.applied_delivers {kind : Box → Prop} {result? : Option Box}
    (gives : Gives kind result?) : Delivers kind (RunContext.applied result?) := by
  unfold RunContext.applied
  split
  · exact .ok (gives _ rfl)
  · exact .error (by simp [Error.FitsAxes])

end FieldKernel
