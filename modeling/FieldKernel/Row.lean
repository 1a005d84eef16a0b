import FieldKernel.Objects

/-!
# Rows of host values

Lists, tuples, texts, index groups and blocks are rows: host code can go through their members, ask
for one by its position, and take them for true if they have any. The members of a mapping are its
names.
-/

namespace FieldKernel.Ask

/-- The members of a row, if a value is one. -/
def members? (value : HostValue) : Ask (Option (List HostValue)) := do
  let objects ← read
  return match value with
    | .list _ items => some items
    | .tuple _ items => some items
    | .mapping names _ => some (names.map (.text 0))
    | .text _ value =>
      some (value.toList.map fun character => .text 0 (String.singleton character))
    | .group id => some ((objects.group id).map .expr)
    | .block id => some ((objects.recording.block id).statements.map .statement)
    | _ => none

/-- The members of a row that host code goes through. -/
def members (value : HostValue) : Ask (List HostValue) := do
  match value, ← members? value with
  | _, some items => return items
  | .expr value, none =>
    throw (.quoting value.text fun text => .type (.subscripted (Text.quoted text)))
  | value, none => refuse value .noIteration

/-- What a row is called in complaints about a position in it. -/
def rowName : HostValue → String
  | .tuple _ _ => "tuple"
  | .text _ _ => "string"
  | _ => "list"

/-- The member of a row at a position. -/
def member (row position : HostValue) : Ask HostValue := do
  match ← members? row with
  | none => refuse row .noMembers
  | some items =>
    match position.whole? with
    | none => refuse position (.position (rowName row))
    | some position =>
      if position < -(Nat.pow 2 63 : Int) ∨ (Nat.pow 2 63 : Int) ≤ position then
        throw (.host .hugePosition)
      match memberAt? items position with
      | some item => return item
      | none => throw (.host (.position (rowName row)))

/-- Whether the host takes a value for true. An expression has no truth value before it is run. -/
def truth (value : HostValue) : Ask Bool := do
  match value with
  | .expr value => throw (.quoting value.text fun text => .type (.truthValue text))
  | value =>
    match ← members? value with
    | some items => return !items.isEmpty
    | none => return value.isTrue

end FieldKernel.Ask
