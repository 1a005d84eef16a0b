import FieldKernel.Proofs.Layout.Trees
import FieldKernel.Proofs.Storage.Layout

/-!
# How layouts grow

Declaring adds nodes to trees, uses up numbers, seals trees and takes them away
from their programs; whatever else host code does, the trees stay as they are.
However far the trees have grown, the nodes that a node lies below are declared
in its tree with smaller numbers, and no two leaves hold one field.
-/

namespace FieldKernel

/-- A node holds the field with a given key. -/
def Node.Holds (node : Node) (key : Nat) : Prop :=
  ∃ field, node.field? = some field ∧ field.key = key

namespace Tree

variable {tree : Tree}

theorem mem_declared {node : Node} :
    node ∈ tree.declared ↔ ∃ number, tree.node? number = some node := by
  simp only [declared, node?, List.mem_filterMap, Array.mem_toList_iff, exists_eq_right,
    Array.mem_iff_getElem?, Option.join_eq_some_iff]

theorem node?_add (above : Node) (kind : LevelKind) (bounds : List (Nat × Nat)) (number : Nat) :
    (tree.add above kind bounds).1.node? number =
      if number = tree.nodes.size then some ⟨above.lineage, ⟨tree.nodes.size, kind, bounds⟩⟩
      else tree.node? number := by
  rw [node?, add, Array.getElem?_push]
  split <;> rfl

theorem node?_skip (number : Nat) : tree.skip.node? number = tree.node? number := by
  rw [node?, skip, Array.getElem?_push]
  split
  · simp [node?, *]
  · rfl

theorem number_lt {number : Nat} {node : Node} (found : tree.node? number = some node) :
    number < tree.nodes.size := by
  by_contra outside
  simp [node?, outside] at found

/-- Nothing is declared below a leaf. -/
theorem checkOpen_ok {node : Node} {action : String} (isOpen : tree.checkOpen node action = .ok ()) :
    node.isLeaf = false := by
  simp only [checkOpen] at isOpen
  split at isOpen
  · cases isOpen
  · split at isOpen
    · cases isOpen
    · next container => simpa using container

theorem nodes_of_sealed {final : Tree} (seals : tree.sealed = .ok final) :
    final.nodes = tree.nodes := by
  simp only [sealed] at seals
  split at seals
  · cases seals
  · cases seals
    rfl

/-- The nodes of a tree are found in another one, under the same numbers. -/
def Keeps (before after : Tree) : Prop :=
  ∀ number node, before.node? number = some node → after.node? number = some node

theorem Keeps.refl (tree : Tree) : tree.Keeps tree :=
  fun _ _ found => found

theorem Keeps.trans {before middle after : Tree} (first : before.Keeps middle)
    (second : middle.Keeps after) : before.Keeps after :=
  fun number node found => second number node (first number node found)

theorem keeps_add (tree : Tree) (above : Node) (kind : LevelKind) (bounds : List (Nat × Nat)) :
    tree.Keeps (tree.add above kind bounds).1 := by
  intro number node found
  rw [node?_add, if_neg (number_lt found).ne, found]

/-- What holds of the nodes of a tree, however it was declared. -/
structure Sound (tree : Tree) : Prop where
  /-- A node is found under its number. -/
  numbered {number : Nat} {node : Node} (found : tree.node? number = some node) : node.id = number
  rooted : tree.node? 0 = some root
  /-- Other nodes than the root lie below a container that was declared before. -/
  below {node : Node} (member : node ∈ tree.declared) (other : node ≠ root) :
    ∃ above ∈ tree.declared, above.isLeaf = false ∧ above.id < node.id ∧
      node.above = above.lineage
  positive {node : Node} (member : node ∈ tree.declared) {bound : Nat × Nat}
    (bounds : bound ∈ node.level.bounds) : 0 < bound.2

theorem sound_new (program? : Option Nat) : (new program?).Sound := by
  have only {number : Nat} {node : Node} (found : (new program?).node? number = some node) :
      number = 0 ∧ node = root := by
    have small : number < 1 := number_lt found
    obtain rfl : number = 0 := by omega
    exact ⟨rfl, (Option.some.inj found).symm⟩
  have member {node : Node} (declared : node ∈ (new program?).declared) : node = root := by
    obtain ⟨number, found⟩ := mem_declared.mp declared
    exact (only found).2
  constructor
  case numbered =>
      intro number node found
      obtain ⟨rfl, rfl⟩ := only found
      rfl
  case rooted => rfl
  case below => exact fun declared other => absurd (member declared) other
  case positive =>
      intro node declared bound bounds
      rw [member declared] at bounds
      cases bounds

/-- A tree stays sound if its nodes stay the same. -/
theorem Sound.of_node? (sound : tree.Sound) {other : Tree}
    (same : ∀ number, other.node? number = tree.node? number) : other.Sound := by
  have declared {node : Node} : node ∈ other.declared ↔ node ∈ tree.declared := by
    simp only [mem_declared, same]
  constructor
  case numbered => exact fun found => sound.numbered (same _ ▸ found)
  case rooted => exact (same 0).trans sound.rooted
  case below =>
      intro node member different
      obtain ⟨above, aboveMember, further⟩ := sound.below (declared.mp member) different
      exact ⟨above, declared.mpr aboveMember, further⟩
  case positive => exact fun member => sound.positive (declared.mp member)

/-- A tree stays sound when a node is added below a container. -/
theorem Sound.add (sound : tree.Sound) {above : Node} (member : above ∈ tree.declared)
    (container : above.isLeaf = false) {kind : LevelKind} {bounds : List (Nat × Nat)}
    (positive : ∀ bound ∈ bounds, 0 < bound.2) : (tree.add above kind bounds).1.Sound := by
  obtain ⟨position, aboveFound⟩ := mem_declared.mp member
  have aboveId := sound.numbered aboveFound
  have inside := number_lt aboveFound
  constructor
  · intro number node found
    rw [node?_add] at found
    split at found
    · next new =>
        cases found
        exact new.symm
    · exact sound.numbered found
  · rw [node?_add, if_neg (by omega)]
    exact sound.rooted
  all_goals
    intro node nodeMember
    rw [declared_add, List.mem_append, List.mem_singleton] at nodeMember
  · intro other
    rw [declared_add]
    rcases nodeMember with old | rfl
    · obtain ⟨parent, parentMember, further⟩ := sound.below old other
      exact ⟨parent, List.mem_append_left _ parentMember, further⟩
    · exact ⟨above, List.mem_append_left _ member, container, aboveId.trans_lt inside, rfl⟩
  · rcases nodeMember with old | rfl
    · exact sound.positive old
    · exact positive _

end Tree

namespace Layouts

/-- What a node can be that is declared: a container, or the place of a field
that has none. -/
inductive Admits (layouts : Layouts) : LevelKind → List (Nat × Nat) → Prop where
  | container {kind : LevelKind} {bounds : List (Nat × Nat)} :
      kind = .dense ∨ kind = .pointer → (bounds.map Prod.fst).Nodup →
      (∀ bound ∈ bounds, 0 < bound.2) → Admits layouts kind bounds
  | place {field : Field} : layouts.leafOf? field = none → Admits layouts (.place field) []

/-- One step in which layouts grow. -/
inductive Grows (layouts : Layouts) : Layouts → Prop where
  | new (program? : Option Nat) : Grows layouts (layouts.push (.new program?))
  | node {id : Nat} {tree : Tree} {above : Node} {kind : LevelKind} {bounds : List (Nat × Nat)} :
      layouts[id]? = some tree → above ∈ tree.declared → above.isLeaf = false →
      layouts.Admits kind bounds →
      Grows layouts (layouts.modify id fun _ => (tree.add above kind bounds).1)
  | skip {id : Nat} {tree : Tree} :
      layouts[id]? = some tree → Grows layouts (layouts.modify id fun _ => tree.skip)
  | alter {id : Nat} {tree other : Tree} :
      layouts[id]? = some tree → other.nodes = tree.nodes →
      Grows layouts (layouts.modify id fun _ => other)

/-- What holds of all trees together. -/
structure Sound (layouts : Layouts) : Prop where
  trees {id : Nat} {tree : Tree} (found : layouts[id]? = some tree) : tree.Sound
  /-- A field is held by one leaf. -/
  once {one other : Nat} {first second : Tree} (found : layouts[one]? = some first)
    (known : layouts[other]? = some second) {leaf twin : Node} (member : leaf ∈ first.declared)
    (among : twin ∈ second.declared) {key : Nat} (holds : leaf.Holds key) (again : twin.Holds key) :
    one = other ∧ leaf = twin

variable {layouts : Layouts}

theorem leafOf?_eq_none {field : Field} (free : layouts.leafOf? field = none) {id : Nat}
    {tree : Tree} (found : layouts[id]? = some tree) {leaf : Node} (member : leaf ∈ tree.declared) :
    ¬leaf.Holds field.key := by
  rintro ⟨held, place, key⟩
  have inside : id < layouts.size := by
    by_contra outside
    simp [outside] at found
  have missing := List.findSome?_eq_none_iff.mp free id (List.mem_range.mpr inside)
  rw [found, Option.bind_some, Option.map_eq_none_iff] at missing
  have refused := List.find?_eq_none.mp missing leaf member
  simp [place, key] at refused

/-- Where a field is placed is where it is held. -/
theorem Sound.leafOf?_eq_some_iff (sound : layouts.Sound) {field : Field} {id : Nat} {leaf : Node} :
    layouts.leafOf? field = some (id, leaf) ↔
      ∃ tree, layouts[id]? = some tree ∧ leaf ∈ tree.declared ∧ leaf.Holds field.key := by
  have found {id : Nat} {leaf : Node} (placed : layouts.leafOf? field = some (id, leaf)) :
      ∃ tree, layouts[id]? = some tree ∧ leaf ∈ tree.declared ∧ leaf.Holds field.key := by
    obtain ⟨tree, known, held⟩ := Layouts.leafOf?_eq_some placed
    have holds := List.find?_some held
    simp only [Option.any_eq_true, decide_eq_true_eq] at holds
    exact ⟨tree, known, List.mem_of_find?_eq_some held, holds⟩
  refine ⟨found, ?_⟩
  rintro ⟨tree, known, member, holds⟩
  cases placed : layouts.leafOf? field with
  | none => exact absurd holds (leafOf?_eq_none placed known member)
  | some pair =>
      obtain ⟨other, twin⟩ := pair
      obtain ⟨second, knownOther, among, again⟩ := found placed
      obtain ⟨rfl, rfl⟩ := sound.once known knownOther member among holds again
      rfl

theorem sound_empty : Sound #[] := by
  constructor
  · rintro id tree ⟨⟩
  · rintro one other first second ⟨⟩

/-- Trees stay sound together when one of them is replaced by one with the same
nodes. -/
theorem Sound.replace (sound : layouts.Sound) {id : Nat} {tree other : Tree}
    (found : layouts[id]? = some tree)
    (same : ∀ number, other.node? number = tree.node? number) :
    Sound (layouts.modify id fun _ => other) := by
  have origin {number : Nat} {later : Tree}
      (known : (layouts.modify id fun _ => other)[number]? = some later) :
      ∃ earlier, layouts[number]? = some earlier ∧
        ∀ position, later.node? position = earlier.node? position := by
    rw [Array.getElem?_modify] at known
    split at known
    · next here =>
        subst here
        rw [found] at known
        cases known
        exact ⟨tree, found, same⟩
    · exact ⟨later, known, fun _ => rfl⟩
  constructor
  · intro number later known
    obtain ⟨earlier, knownEarlier, nodes⟩ := origin known
    exact (sound.trees knownEarlier).of_node? nodes
  · intro one other first second found known leaf twin member among key holds again
    obtain ⟨former, foundFormer, firstNodes⟩ := origin found
    obtain ⟨latter, knownLatter, secondNodes⟩ := origin known
    refine sound.once foundFormer knownLatter ?_ ?_ holds again
    · simpa only [Tree.mem_declared, firstNodes] using member
    · simpa only [Tree.mem_declared, secondNodes] using among

/-- Trees stay sound together when a node is added that may be. -/
theorem Sound.add (sound : layouts.Sound) {id : Nat} {tree : Tree} {above : Node}
    {kind : LevelKind} {bounds : List (Nat × Nat)} (found : layouts[id]? = some tree)
    (member : above ∈ tree.declared) (container : above.isLeaf = false)
    (admits : layouts.Admits kind bounds) :
    Sound (layouts.modify id fun _ => (tree.add above kind bounds).1) := by
  have positive : ∀ bound ∈ bounds, 0 < bound.2 := by
    cases admits with
    | container _ _ positive => exact positive
    | place => simp
  -- The new node holds no field that another node holds.
  have free {number : Nat} {other : Tree} (known : layouts[number]? = some other) {node : Node}
      (among : node ∈ other.declared) {key : Nat} (holds : node.Holds key) :
      ¬Node.Holds ⟨above.lineage, ⟨tree.nodes.size, kind, bounds⟩⟩ key := by
    rintro ⟨field, held, rfl⟩
    cases admits with
    | container among =>
        rcases among with rfl | rfl
        · cases held
        · cases held
    | place unplaced =>
        cases held
        exact leafOf?_eq_none unplaced known among holds
  have origin {number : Nat} {later : Tree}
      (known : (layouts.modify id fun _ => (tree.add above kind bounds).1)[number]? = some later) :
      ∃ earlier, layouts[number]? = some earlier ∧
        (earlier.Sound → later.Sound) ∧ ∀ node ∈ later.declared, node ∈ earlier.declared ∨
          number = id ∧ node = ⟨above.lineage, ⟨tree.nodes.size, kind, bounds⟩⟩ := by
    rw [Array.getElem?_modify] at known
    split at known
    · next here =>
        subst here
        rw [found] at known
        cases known
        refine ⟨tree, found, fun sound => sound.add member container positive, ?_⟩
        intro node declared
        rw [Tree.declared_add, List.mem_append, List.mem_singleton] at declared
        exact declared.imp_right fun new => ⟨rfl, new⟩
    · exact ⟨later, known, fun sound => sound, fun node declared => .inl declared⟩
  constructor
  · intro number later known
    obtain ⟨earlier, knownEarlier, stays, _⟩ := origin known
    exact stays (sound.trees knownEarlier)
  · intro one other first second foundFirst knownSecond leaf twin memberFirst amongSecond key
      holds again
    obtain ⟨former, foundFormer, _, ofFirst⟩ := origin foundFirst
    obtain ⟨latter, knownLatter, _, ofSecond⟩ := origin knownSecond
    rcases ofFirst leaf memberFirst with old | ⟨rfl, rfl⟩
    · rcases ofSecond twin amongSecond with oldTwin | ⟨rfl, rfl⟩
      · exact sound.once foundFormer knownLatter old oldTwin holds again
      · exact absurd again (free foundFormer old holds)
    · rcases ofSecond twin amongSecond with oldTwin | ⟨rfl, rfl⟩
      · exact absurd holds (free knownLatter oldTwin again)
      · exact ⟨rfl, rfl⟩

/-- Trees stay sound together when a new one comes up. -/
theorem Sound.push (sound : layouts.Sound) (program? : Option Nat) :
    Sound (layouts.push (.new program?)) := by
  have origin {number : Nat} {later : Tree}
      (known : (layouts.push (.new program?))[number]? = some later) :
      layouts[number]? = some later ∨ later = .new program? := by
    rw [Array.getElem?_push] at known
    split at known
    · exact .inr (Option.some.inj known).symm
    · exact .inl known
  have unheld {node : Node} (member : node ∈ (Tree.new program?).declared) {key : Nat} :
      ¬node.Holds key := by
    rw [Tree.declared_new, List.mem_singleton] at member
    rintro ⟨field, held, _⟩
    rw [member] at held
    cases held
  constructor
  · intro number later known
    rcases origin known with old | rfl
    · exact sound.trees old
    · exact Tree.sound_new program?
  · intro one other first second found known leaf twin member among key holds again
    rcases origin found with old | rfl
    · rcases origin known with oldTwin | rfl
      · exact sound.once old oldTwin member among holds again
      · exact absurd again (unheld among)
    · exact absurd holds (unheld member)

theorem Sound.grows (sound : layouts.Sound) {later : Layouts} (grows : layouts.Grows later) :
    later.Sound := by
  cases grows with
  | new program? => exact sound.push program?
  | node found member container admits => exact sound.add found member container admits
  | @skip id tree found => exact sound.replace found tree.node?_skip
  | alter found same => exact sound.replace found fun number => by rw [Tree.node?, same, Tree.node?]

theorem Sound.grown (sound : layouts.Sound) {later : Layouts}
    (grown : Relation.ReflTransGen Grows layouts later) : later.Sound := by
  induction grown with
  | refl => exact sound
  | tail _ grows hypothesis => exact hypothesis.grows grows

/-- Nodes stay what they are, and fields stay where they are placed. -/
structure Kept (before after : Layouts) : Prop where
  trees {id : Nat} {tree : Tree} (found : before[id]? = some tree) :
    ∃ later, after[id]? = some later ∧ tree.Keeps later
  places {field : Field} {id : Nat} {leaf : Node}
    (placed : before.leafOf? field = some (id, leaf)) : after.leafOf? field = some (id, leaf)

/-- A tree stays where it is and keeps its nodes. -/
theorem Grows.keeps {later : Layouts} (grows : layouts.Grows later) {id : Nat} {tree : Tree}
    (found : layouts[id]? = some tree) : ∃ other, later[id]? = some other ∧ tree.Keeps other := by
  have modified {place : Nat} {old new : Tree} (known : layouts[place]? = some old)
      (keeps : old.Keeps new) :
      ∃ other, (layouts.modify place fun _ => new)[id]? = some other ∧ tree.Keeps other := by
    rw [Array.getElem?_modify]
    split
    · next here =>
        subst here
        rw [found] at known
        cases known
        exact ⟨new, by rw [found]; rfl, keeps⟩
    · exact ⟨tree, found, .refl tree⟩
  cases grows with
  | new program? =>
      have inside : id < layouts.size := by
        by_contra outside
        simp [outside] at found
      exact ⟨tree, by rw [Array.getElem?_push, if_neg inside.ne, found], .refl tree⟩
  | node known => exact modified known (Tree.keeps_add _ _ _ _)
  | @skip place tree known =>
      exact modified known fun number node declared => (tree.node?_skip number).trans declared
  | alter known same =>
      exact modified known fun number node declared => by rwa [Tree.node?, same]

theorem Sound.kept (sound : layouts.Sound) {later : Layouts}
    (grown : Relation.ReflTransGen Grows layouts later) : layouts.Kept later := by
  have trees {id : Nat} {tree : Tree} (found : layouts[id]? = some tree) :
      ∃ other, later[id]? = some other ∧ tree.Keeps other := by
    induction grown with
    | refl => exact ⟨tree, found, .refl tree⟩
    | tail _ grows hypothesis =>
        obtain ⟨middle, known, keeps⟩ := hypothesis
        obtain ⟨other, knownOther, keepsOn⟩ := grows.keeps known
        exact ⟨other, knownOther, keeps.trans keepsOn⟩
  refine ⟨trees, fun placed => ?_⟩
  obtain ⟨tree, found, member, holds⟩ := sound.leafOf?_eq_some_iff.mp placed
  obtain ⟨number, declared⟩ := Tree.mem_declared.mp member
  obtain ⟨other, known, keeps⟩ := trees found
  exact (sound.grown grown).leafOf?_eq_some_iff.mpr
    ⟨other, known, Tree.mem_declared.mpr ⟨number, keeps number _ declared⟩, holds⟩

end Layouts

end FieldKernel
