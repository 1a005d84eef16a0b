import FieldKernel.Expr.Slots
import FieldKernel.Proofs.Recording.Nodes

/-!
# Filling type slots

Types are asked of expressions one after another, and their slots are filled.
What was filled in before makes no difference if each slot was left as it was or
holds the type that is asked for.  Otherwise the first slot that holds another
type cannot be filled.
-/

namespace FieldKernel

/-- A type that is asked of an expression. -/
structure Demand where
  expr : Expr
  type : DataType

namespace TypeSlots

section Resolve

variable {slots filled : TypeSlots} {expr other : Expr} {type : DataType}

theorem resolve_of_eq (same : slots.typeOf expr = type) : slots.resolve expr type = .ok slots := by
  simp only [resolve, same, if_true]

/-- A slot that holds another type is not filled. -/
theorem resolve_of_known (known : slots.typeOf expr ≠ .unknown)
    (different : slots.typeOf expr ≠ type) :
    slots.resolve expr type = .error (slots.conflict expr type) := by
  simp only [resolve, different, if_false, ne_eq, known, not_false_eq_true, if_true]

theorem exists_resolve (held : slots.typeOf expr = .unknown ∨ slots.typeOf expr = type) :
    ∃ filled, slots.resolve expr type = .ok filled := by
  by_cases same : slots.typeOf expr = type
  · exact ⟨slots, resolve_of_eq same⟩
  · refine ⟨⟨slots.filled.insert expr.key type⟩, ?_⟩
    rw [resolve, if_neg same, if_neg (not_not_intro (held.resolve_right same))]

/-- Only a slot that holds another type is not filled. -/
theorem of_resolve_error {error : Error} (fails : slots.resolve expr type = .error error) :
    slots.typeOf expr ≠ .unknown ∧ slots.typeOf expr ≠ type ∧
      error = slots.conflict expr type := by
  by_cases held : slots.typeOf expr = .unknown ∨ slots.typeOf expr = type
  · obtain ⟨filled, resolved⟩ := exists_resolve held
    cases fails.symm.trans resolved
  · obtain ⟨settled, different⟩ := not_or.mp held
    rw [resolve_of_known settled different] at fails
    exact ⟨settled, different, (Except.error.inj fails).symm⟩

theorem typeOf_before (resolved : slots.resolve expr type = .ok filled) :
    slots.typeOf expr = .unknown ∨ slots.typeOf expr = type := by
  by_contra refused
  obtain ⟨known, different⟩ := not_or.mp refused
  rw [resolve_of_known known different] at resolved
  cases resolved

/-- The slots of other nodes stay as they are. -/
theorem typeOf_of_key_ne (resolved : slots.resolve expr type = .ok filled)
    (different : other.key ≠ expr.key) : filled.typeOf other = slots.typeOf other := by
  simp only [resolve] at resolved
  split at resolved
  · cases resolved
    rfl
  · split at resolved
    · cases resolved
    · cases resolved
      have apart : ¬ expr.key = other.key := fun same => different same.symm
      simp [typeOf, Std.TreeMap.getElem?_insert, apart]

end Resolve

/-- No slot is emptied. -/
def Grows (before after : TypeSlots) : Prop :=
  ∀ expr, after.typeOf expr = before.typeOf expr ∨ after.typeOf expr ≠ .unknown

theorem Grows.refl (slots : TypeSlots) : slots.Grows slots :=
  fun _ => .inl rfl

theorem Grows.trans {before middle after : TypeSlots} (first : before.Grows middle)
    (second : middle.Grows after) : before.Grows after := by
  intro expr
  rcases second expr with same | known
  · rw [same]
    exact first expr
  · exact .inr known

theorem grows_of_resolve {slots filled : TypeSlots} {expr : Expr} {type : DataType}
    (resolved : slots.resolve expr type = .ok filled) : slots.Grows filled := by
  intro other
  simp only [resolve] at resolved
  split at resolved
  · cases resolved
    exact .inl rfl
  · next different =>
    split at resolved
    · cases resolved
    · next vacant =>
      cases resolved
      simp only [ne_eq, not_not] at vacant
      by_cases same : expr.key = other.key
      · right
        rw [vacant] at different
        simpa [typeOf, same] using fun unknown => different unknown.symm
      · left
        simp [typeOf, Std.TreeMap.getElem?_insert, same]

/-- Types are filled in one after another, up to the first slot that holds
another one. -/
def fill (slots : TypeSlots) : List Demand → Except Error Unit × TypeSlots
  | [] => (.ok (), slots)
  | demand :: rest =>
    match slots.resolve demand.expr demand.type with
    | .ok filled => filled.fill rest
    | .error error => (.error error, slots)

theorem fill_append (slots : TypeSlots) (first second : List Demand) :
    slots.fill (first ++ second) =
      match slots.fill first with
      | (.ok (), filled) => filled.fill second
      | (.error error, filled) => (.error error, filled) := by
  induction first generalizing slots with
  | nil => rfl
  | cons demand rest hypothesis =>
      simp only [List.cons_append, fill]
      cases slots.resolve demand.expr demand.type with
      | error error => rfl
      | ok filled => exact hypothesis filled

theorem grows_fill (slots : TypeSlots) (demands : List Demand) :
    slots.Grows (slots.fill demands).2 := by
  induction demands generalizing slots with
  | nil => exact .refl slots
  | cons demand rest hypothesis =>
      rw [fill]
      cases resolved : slots.resolve demand.expr demand.type with
      | error error => exact .refl slots
      | ok filled => exact (grows_of_resolve resolved).trans (hypothesis filled)

end TypeSlots

/-- The slot of the expression is as before, or what was filled in is the type
that is asked for. -/
def Demand.Fits (demand : Demand) (before after : TypeSlots) : Prop :=
  after.typeOf demand.expr = before.typeOf demand.expr ∨
    (before.typeOf demand.expr = .unknown ∧ after.typeOf demand.expr = demand.type)

namespace TypeSlots

section Fits

variable {occurs : Expr → Prop} {before after : TypeSlots} {demands : List Demand}

theorem typeOf_of_ne (occurring : Occurring occurs) {slots filled : TypeSlots} {expr other : Expr}
    {type : DataType} (known : occurs expr) (knownOther : occurs other)
    (resolved : slots.resolve expr type = .ok filled) (different : other ≠ expr) :
    filled.typeOf other = slots.typeOf other :=
  typeOf_of_key_ne resolved fun same => different (occurring.ofKey knownOther known same)

/-- If all types can be filled in, the slots held none or the same. -/
theorem typeOf_of_fill (occurring : Occurring occurs)
    (known : ∀ demand ∈ demands, occurs demand.expr) (filled : (before.fill demands).1 = .ok ()) :
    ∀ demand ∈ demands,
      before.typeOf demand.expr = .unknown ∨ before.typeOf demand.expr = demand.type := by
  induction demands generalizing before with
  | nil => simp
  | cons first rest hypothesis =>
      rw [fill] at filled
      cases resolved : before.resolve first.expr first.type with
      | error error =>
          rw [resolved] at filled
          cases filled
      | ok next =>
          rw [resolved] at filled
          intro demand member
          rcases List.mem_cons.mp member with rfl | later
          · exact typeOf_before resolved
          · have held := hypothesis (fun one inside => known one (by simp [inside])) filled demand later
            by_cases same : demand.expr = first.expr
            · -- The slot holds the first type now, so the later demand is for the same one.
              rw [same, typeOf_of_resolve resolved] at held
              rw [same]
              rcases typeOf_before resolved with vacant | asked
              · exact .inl vacant
              · rwa [asked]
            · rwa [typeOf_of_ne occurring (known first (by simp)) (known demand member) resolved
                same] at held

section Step

variable {next nextAfter : TypeSlots} {first demand : Demand}

/-- A type that is filled in on both sides fits from then on. -/
theorem fits_of_eq (resolved : before.resolve first.expr first.type = .ok next)
    (resolvedAfter : after.resolve first.expr first.type = .ok nextAfter)
    (same : demand.expr = first.expr) : demand.Fits next nextAfter := by
  left
  rw [same, typeOf_of_resolve resolvedAfter, typeOf_of_resolve resolved]

theorem fits_iff_of_ne (occurring : Occurring occurs) (known : occurs first.expr)
    (knownDemand : occurs demand.expr)
    (resolved : before.resolve first.expr first.type = .ok next)
    (resolvedAfter : after.resolve first.expr first.type = .ok nextAfter)
    (different : demand.expr ≠ first.expr) :
    demand.Fits next nextAfter ↔ demand.Fits before after := by
  rw [Demand.Fits, Demand.Fits, typeOf_of_ne occurring known knownDemand resolved different,
    typeOf_of_ne occurring known knownDemand resolvedAfter different]

/-- Two demands for the type of one expression can both be met before, so if one
fits, the other does. -/
theorem fits_of_fits (resolved : before.resolve first.expr first.type = .ok next)
    (fits : first.Fits before after) (same : demand.expr = first.expr)
    (held : next.typeOf demand.expr = .unknown ∨ next.typeOf demand.expr = demand.type) :
    demand.Fits before after := by
  rw [same, typeOf_of_resolve resolved] at held
  rw [Demand.Fits, same]
  rcases fits with equal | ⟨vacant, asked⟩
  · exact .inl equal
  · rcases held with unknown | equal
    · exact .inl (by rw [asked, unknown, vacant])
    · exact .inr ⟨vacant, asked.trans equal⟩

end Step

/-- What was filled in makes no difference to demands that it fits. -/
theorem fill_eq_of_fits (occurring : Occurring occurs)
    (known : ∀ demand ∈ demands, occurs demand.expr)
    (fits : ∀ demand ∈ demands, demand.Fits before after) :
    (after.fill demands).1 = (before.fill demands).1 := by
  induction demands generalizing before after with
  | nil => rfl
  | cons first rest hypothesis =>
      have later {next filled : TypeSlots} (resolved : before.resolve first.expr first.type = .ok next)
          (resolvedAfter : after.resolve first.expr first.type = .ok filled) :
          (after.fill (first :: rest)).1 = (before.fill (first :: rest)).1 := by
        rw [fill, fill, resolved, resolvedAfter]
        refine hypothesis (fun one inside => known one (by simp [inside])) fun demand inside => ?_
        by_cases same : demand.expr = first.expr
        · exact fits_of_eq resolved resolvedAfter same
        · rw [fits_iff_of_ne occurring (known first (by simp)) (known demand (by simp [inside]))
            resolved resolvedAfter same]
          exact fits demand (by simp [inside])
      rcases fits first (by simp) with same | ⟨vacant, asked⟩
      · by_cases held : before.typeOf first.expr = .unknown ∨ before.typeOf first.expr = first.type
        · obtain ⟨next, resolved⟩ := exists_resolve held
          obtain ⟨filled, resolvedAfter⟩ := exists_resolve (same ▸ held)
          exact later resolved resolvedAfter
        · obtain ⟨known, different⟩ := not_or.mp held
          rw [fill, fill, resolve_of_known known different,
            resolve_of_known (same ▸ known) (same ▸ different), conflict, conflict, same]
      · have unfilled : before.typeOf first.expr = .unknown ∨
            before.typeOf first.expr = first.type := .inl vacant
        obtain ⟨next, resolved⟩ := exists_resolve unfilled
        exact later resolved (resolve_of_eq asked)

/-- A demand that can be met before, but does not fit what was filled in, is for
another type than the slot holds. -/
theorem resolve_of_misfit {demand : Demand}
    (grows : after.typeOf demand.expr = before.typeOf demand.expr ∨
      after.typeOf demand.expr ≠ .unknown)
    (held : before.typeOf demand.expr = .unknown ∨ before.typeOf demand.expr = demand.type)
    (unfit : ¬ demand.Fits before after) :
    after.resolve demand.expr demand.type = .error (after.conflict demand.expr demand.type) := by
  obtain ⟨changed, other⟩ := not_or.mp unfit
  refine resolve_of_known (grows.resolve_left changed) fun same => ?_
  rcases held with vacant | asked
  · exact other ⟨vacant, same⟩
  · exact changed (same.trans asked.symm)

/-- If the types can be filled in without what was filled in before, but not all
of them fit it, then the first that does not cannot be filled in. -/
theorem fill_conflict (occurring : Occurring occurs)
    (known : ∀ demand ∈ demands, occurs demand.expr)
    (grows : ∀ expr, occurs expr →
      after.typeOf expr = before.typeOf expr ∨ after.typeOf expr ≠ .unknown)
    (filled : (before.fill demands).1 = .ok ())
    (misfit : ∃ demand ∈ demands, ¬ demand.Fits before after) :
    ∃ demand ∈ demands, ¬ demand.Fits before after ∧ (after.fill demands).1 =
      .error (after.conflict demand.expr demand.type) := by
  induction demands generalizing before after with
  | nil => simp at misfit
  | cons first rest hypothesis =>
      have knownFirst := known first List.mem_cons_self
      have heldFirst := typeOf_of_fill occurring known filled first List.mem_cons_self
      by_cases fits : first.Fits before after
      · have heldAfter : after.typeOf first.expr = .unknown ∨
            after.typeOf first.expr = first.type := by
          rcases fits with same | ⟨_, asked⟩
          · exact same ▸ heldFirst
          · exact .inr asked
        obtain ⟨next, resolved⟩ := exists_resolve heldFirst
        obtain ⟨nextAfter, resolvedAfter⟩ := exists_resolve heldAfter
        rw [fill, resolved] at filled
        have knownRest : ∀ demand ∈ rest, occurs demand.expr :=
          fun demand inside => known demand (List.mem_cons_of_mem first inside)
        have unfitRest {demand : Demand} (inside : demand ∈ rest)
            (different : demand.expr ≠ first.expr) :
            demand.Fits next nextAfter ↔ demand.Fits before after :=
          fits_iff_of_ne occurring knownFirst (knownRest demand inside) resolved resolvedAfter
            different
        have growsNext (expr : Expr) (occurs : occurs expr) :
            nextAfter.typeOf expr = next.typeOf expr ∨ nextAfter.typeOf expr ≠ .unknown := by
          by_cases same : expr = first.expr
          · left
            rw [same, typeOf_of_resolve resolvedAfter, typeOf_of_resolve resolved]
          · rw [typeOf_of_ne occurring knownFirst occurs resolved same,
              typeOf_of_ne occurring knownFirst occurs resolvedAfter same]
            exact grows expr occurs
        -- The demand that does not fit comes later, and does not fit there.
        have misfitRest : ∃ demand ∈ rest, ¬ demand.Fits next nextAfter := by
          obtain ⟨demand, member, unfit⟩ := misfit
          rcases List.mem_cons.mp member with rfl | inside
          · exact absurd fits unfit
          · have different : demand.expr ≠ first.expr := fun same =>
              unfit (fits_of_fits resolved fits same
                (typeOf_of_fill occurring knownRest filled demand inside))
            exact ⟨demand, inside, unfit ∘ (unfitRest inside different).mp⟩
        obtain ⟨demand, inside, unfit, failed⟩ :=
          hypothesis knownRest growsNext filled misfitRest
        have different : demand.expr ≠ first.expr := fun same =>
          unfit (fits_of_eq resolved resolvedAfter same)
        refine ⟨demand, List.mem_cons_of_mem first inside,
          unfit ∘ (unfitRest inside different).mpr, ?_⟩
        rw [fill, resolvedAfter]
        dsimp only
        rw [failed, conflict, conflict,
          typeOf_of_ne occurring knownFirst (knownRest demand inside) resolvedAfter different]
      · refine ⟨first, List.mem_cons_self, fits, ?_⟩
        rw [fill, resolve_of_misfit (grows first.expr knownFirst) heldFirst fits]

end Fits

end TypeSlots

end FieldKernel
