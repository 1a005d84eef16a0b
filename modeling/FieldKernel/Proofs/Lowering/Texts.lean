import FieldKernel.Objects
import FieldKernel.Proofs.Triples

/-!
# Recorded code that is written in the same way

How a statement is written can depend on what objects have become, because host
code may print any value and give any hint.  Where no object shows, a statement
is written in the same way whatever becomes of objects.
-/

namespace FieldKernel

mutual

/-- A statement, and all statements inside it, are written in the same way. -/
def Stmt.Alike (one other : Rendering) : Stmt → Prop
  | .branch _ condition onTrue onFalse =>
    branchText other condition = branchText one condition ∧
      Stmt.BlockAlike one other onTrue ∧ Stmt.BlockAlike one other onFalse
  | .loop _ vars source schedule body =>
    loopText other vars source schedule = loopText one vars source schedule ∧
      Stmt.BlockAlike one other body
  | statement => statement.text other = statement.text one

/-- The statements of a block are written in the same way. -/
def Stmt.BlockAlike (one other : Rendering) : List Stmt → Prop
  | [] => True
  | first :: rest => first.Alike one other ∧ Stmt.BlockAlike one other rest

end

mutual

theorem Stmt.Alike.refl (rendering : Rendering) (statement : Stmt) :
    statement.Alike rendering rendering := by
  cases statement with
  | branch site? condition onTrue onFalse =>
      exact ⟨rfl, Stmt.BlockAlike.refl rendering onTrue, Stmt.BlockAlike.refl rendering onFalse⟩
  | loop site? vars source schedule body => exact ⟨rfl, Stmt.BlockAlike.refl rendering body⟩
  | _ => rfl

theorem Stmt.BlockAlike.refl (rendering : Rendering) (body : List Stmt) :
    Stmt.BlockAlike rendering rendering body := by
  cases body with
  | nil => trivial
  | cons first rest => exact ⟨Stmt.Alike.refl rendering first, Stmt.BlockAlike.refl rendering rest⟩

end

mutual

theorem Stmt.lines_alike {one other : Rendering} (level : Nat) (statement : Stmt)
    (alike : statement.Alike one other) :
    statement.lines other level = statement.lines one level := by
  cases statement with
  | branch site? condition onTrue onFalse =>
      simp only [Stmt.lines, alike.1, Stmt.blockLines_alike (level + 1) onTrue alike.2.1,
        Stmt.blockLines_alike (level + 1) onFalse alike.2.2]
  | loop site? vars source schedule body =>
      simp only [Stmt.lines, alike.1, Stmt.blockLines_alike (level + 1) body alike.2]
  | _ => exact congrArg (· >>= fun text => pure [Stmt.indentation level ++ text]) alike

theorem Stmt.blockLines_alike {one other : Rendering} (level : Nat) (body : List Stmt)
    (alike : Stmt.BlockAlike one other body) :
    Stmt.blockLines other level body = Stmt.blockLines one level body := by
  cases body with
  | nil => rfl
  | cons first rest =>
      simp only [Stmt.blockLines, Stmt.lines_alike level first alike.1,
        Stmt.blockLines_alike level rest alike.2]

end

/-- A value in whose written forms no object shows. -/
def HostValue.Objectless : HostValue → Prop
  | .none | .literal _ _ | .text _ _ | .expr _ | .axis _ _ => True
  | _ => False

namespace Objects

variable {value : HostValue}

theorem listing_objectless (objectless : value.Objectless) (one other : Objects) :
    other.listing value = one.listing value := by
  cases value with
  | none | literal | text | expr | axis => simp only [listing, HostValue.listingWith]
  | _ => exact objectless.elim

theorem recorded_objectless (objectless : value.Objectless) (one other : Objects) :
    other.recorded value = one.recorded value := by
  cases value with
  | none | literal | text | expr | axis => rfl
  | _ => exact objectless.elim

end Objects

/-- No hint says an object. -/
def Schedule.Objectless (schedule : Schedule) : Prop :=
  ∀ kind value, (kind, HintValue.host value) ∈ schedule.entries → value.Objectless

theorem Schedule.text_objectless {schedule : Schedule} (objectless : schedule.Objectless)
    (one other : Objects) : schedule.text other.rendering = schedule.text one.rendering := by
  have plain : ∀ entry ∈ schedule.entries,
      entry.2.plain other.rendering = entry.2.plain one.rendering := by
    rintro ⟨kind, mode | value⟩ member
    · rfl
    · have listed := Objects.listing_objectless (objectless kind value member) one other
      cases value with
      | text | expr => rfl
      | _ => exact listed
  have hints : schedule.entries.mapM (hintText other.rendering) =
      schedule.entries.mapM (hintText one.rendering) :=
    mapM_eq_of_forall _ fun entry member => by rw [hintText, hintText, plain entry member]
  rw [text, text]
  cases entries : schedule.entries with
  | nil => rfl
  | cons first rest =>
      rw [entries] at hints
      dsimp only
      rw [hints]

mutual

/-- No object shows in a statement. -/
def Stmt.Objectless : Stmt → Prop
  | .print _ value label => value.Objectless ∧ label.Objectless
  | .branch _ condition onTrue onFalse =>
    condition.Objectless ∧ Stmt.BlockObjectless onTrue ∧ Stmt.BlockObjectless onFalse
  | .loop _ _ _ schedule body => schedule.Objectless ∧ Stmt.BlockObjectless body
  | _ => True

/-- No object shows in the statements of a block. -/
def Stmt.BlockObjectless : List Stmt → Prop
  | [] => True
  | first :: rest => first.Objectless ∧ Stmt.BlockObjectless rest

end

mutual

theorem Stmt.Objectless.alike {statement : Stmt} (objectless : statement.Objectless)
    (one other : Objects) : statement.Alike one.rendering other.rendering := by
  cases statement with
  | print site? value label =>
      have recorded := Objects.recorded_objectless objectless.1 one other
      have listed := Objects.listing_objectless objectless.2 one other
      simp only [Stmt.Alike, Stmt.text, Stmt.printText, Objects.rendering, recorded, listed]
  | branch site? condition onTrue onFalse =>
      have recorded := Objects.recorded_objectless objectless.1 one other
      refine ⟨?_, objectless.2.1.alike one other, objectless.2.2.alike one other⟩
      simp only [Stmt.branchText, Objects.rendering, recorded]
  | loop site? vars source schedule body =>
      refine ⟨?_, objectless.2.alike one other⟩
      have same := Schedule.text_objectless objectless.1 one other
      cases source <;> simp only [Stmt.loopText, same]
  | _ => rfl

/-- A block in which no object shows is written in the same way whatever becomes
of objects. -/
theorem Stmt.BlockObjectless.alike {body : List Stmt} (objectless : Stmt.BlockObjectless body)
    (one other : Objects) : Stmt.BlockAlike one.rendering other.rendering body := by
  cases body with
  | nil => trivial
  | cons first rest => exact ⟨objectless.1.alike one other, objectless.2.alike one other⟩

end

end FieldKernel
