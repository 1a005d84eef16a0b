import FieldKernel.Rendering

/-!
# Loop schedules

A loop carries hints about how it may be run. A later hint of the same kind replaces the earlier
one, and hints of different kinds do not touch one another. What a schedule says is its list of
entries: one for each kind that was set, in the order of the kinds' names.
-/

namespace FieldKernel

/-- What a hint is about. -/
inductive HintKind where
  | parallelize
  | vectorize
  | blockDim
  | cache
  deriving DecidableEq, Repr

namespace HintKind

/-- Every kind once, in the order of their names. -/
def all : List HintKind :=
  [blockDim, cache, parallelize, vectorize]

def name : HintKind → String
  | parallelize => "parallelize"
  | vectorize => "vectorize"
  | blockDim => "block_dim"
  | cache => "cache"

def ofName? (name : String) : Option HintKind :=
  all.find? (·.name = name)

theorem ofName?_name (kind : HintKind) : ofName? kind.name = some kind := by
  cases kind <;> decide

end HintKind

/-- Where the elements that a loop touches are cached. -/
inductive CacheMode where
  | shared
  | l1
  | readOnly
  deriving DecidableEq, Repr

namespace CacheMode

def all : List CacheMode :=
  [shared, l1, readOnly]

def name : CacheMode → String
  | shared => "shared"
  | l1 => "l1"
  | readOnly => "read_only"

def ofName? (name : String) : Option CacheMode :=
  all.find? (·.name = name)

theorem ofName?_name (mode : CacheMode) : ofName? mode.name = some mode := by
  cases mode <;> decide

end CacheMode

/-- What a hint says: a cache mode, or a value of the host that nothing has checked. -/
inductive HintValue where
  | mode (mode : CacheMode)
  | host (value : HostValue)

namespace HintValue

/-- The plain form of what a hint says. -/
def plain (rendering : Rendering) : HintValue → Except HostFault String
  | mode chosen => .ok chosen.name
  | host value => rendering.plain value

def listing (rendering : Rendering) : HintValue → Except HostFault String
  | mode chosen => .ok (Listing.choice "CacheMode" chosen.name chosen.name)
  | host value => rendering.listing value

end HintValue

/-- The hints of a loop, in the order in which their kinds were first set. -/
structure Schedule where
  hints : List (HintKind × HintValue)

namespace Schedule

def empty : Schedule :=
  ⟨[]⟩

def get? (schedule : Schedule) (kind : HintKind) : Option HintValue :=
  schedule.hints.lookup kind

/-- Replaces the hint of a kind, or adds it behind the others. -/
def replace (kind : HintKind) (value : HintValue) :
    List (HintKind × HintValue) → List (HintKind × HintValue)
  | [] => [(kind, value)]
  | hint :: rest => if hint.1 = kind then (kind, value) :: rest else hint :: replace kind value rest

def set (schedule : Schedule) (kind : HintKind) (value : HintValue) : Schedule :=
  ⟨replace kind value schedule.hints⟩

/-- The hint of a kind after one has been set. -/
theorem get?_set (schedule : Schedule) (kind other : HintKind) (value : HintValue) :
    (schedule.set kind value).get? other =
      if other = kind then some value else schedule.get? other := by
  obtain ⟨hints⟩ := schedule
  simp only [get?, set]
  induction hints with
  | nil =>
    simp only [replace]
    by_cases same : other = kind
    · simp [same]
    · simp [same]
  | cons hint rest hypothesis =>
    obtain ⟨first, said⟩ := hint
    simp only [replace]
    by_cases replaced : first = kind
    · subst replaced
      by_cases same : other = first
      · simp [same]
      · simp [same, List.lookup_cons, beq_eq_false_iff_ne.mpr same]
    · by_cases found : other = first
      · subst found
        simp [replaced]
      · simp only [replaced, if_false, List.lookup_cons, beq_eq_false_iff_ne.mpr found]
        exact hypothesis

/-- The hints that are set, in the order of their names. -/
def entries (schedule : Schedule) : List (HintKind × HintValue) :=
  HintKind.all.filterMap fun kind => (schedule.get? kind).map (kind, ·)

/-- A hint of a loop behind its head. -/
def hintText (rendering : Rendering) (entry : HintKind × HintValue) :
    Except HostFault String := do
  return entry.1.name ++ "=" ++ (← entry.2.plain rendering)

/-- The schedule behind the head of a loop. -/
def text (schedule : Schedule) (rendering : Rendering) : Except HostFault String :=
  match schedule.entries with
  | [] => .ok ""
  | entries => do
    return " [" ++ Expr.commaSeparated (← entries.mapM (hintText rendering)) ++ "]"

def hintListing (rendering : Rendering) (entry : HintKind × HintValue) :
    Except HostFault String := do
  return Listing.choice "ScheduleKind" entry.1.name entry.1.name ++ ": " ++
    (← entry.2.listing rendering)

def listing (schedule : Schedule) (rendering : Rendering) : Except HostFault String := do
  let hints ← schedule.hints.mapM (hintListing rendering)
  return Listing.record "LoopSchedule"
    [("hints", "\x7b" ++ Expr.commaSeparated hints ++ "\x7d")]

end Schedule

end FieldKernel
