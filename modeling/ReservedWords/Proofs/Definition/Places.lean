import ReservedWords.Definition
import Mathlib.Data.List.Sort

/-!
Places of leaves. A place is the way down from the root, as the positions of the children that are
taken, and the places of one tree are ordered from left to right. The leaves of a tree are the
leaves at all places that have one, in this order.
-/

namespace ReservedWords.Definition.Tree

def leafAt : List Nat → Tree → Option Leaf
  | [], .leaf value => some value
  | index :: rest, .node _ children => children[index]?.bind (leafAt rest)
  | _, _ => none

/-- Some places are those of all leaves of a tree, from left to right. -/
structure LeafPlaces (tree : Tree) (places : List (List Nat)) : Prop where
  ordered : places.Pairwise (· < ·)
  complete : ∀ place, place ∈ places ↔ (tree.leafAt place).isSome

mutual

/-- The places of the leaves of a tree. -/
def places : Tree → List (List Nat)
  | .leaf _ => [[]]
  | .node _ children => placesFrom 0 children

/-- The places of the leaves of some children, the first of which has a position. -/
def placesFrom (position : Nat) : List Tree → List (List Nat)
  | [] => []
  | tree :: trees => (places tree).map (position :: ·) ++ placesFrom (position + 1) trees

end

mutual

/-- The leaves of a tree stand at its places, by mutual induction on the tree. -/
theorem map_leafAt_places (tree : Tree)
    : tree.places.map (leafAt · tree) = tree.leaves.map some := by
  cases tree with
  | leaf value => rfl
  | node label children => exact map_leafAt_placesFrom label [] children

/-- The leaves of some children stand at their places below a node, by mutual induction on them. -/
theorem map_leafAt_placesFrom (label : String) (before trees : List Tree)
    : (placesFrom before.length trees).map (leafAt · (.node label (before ++ trees)))
      = (leavesOf trees).map some := by
  cases trees with
  | nil => rfl
  | cons tree rest =>
    have here : (before ++ tree :: rest)[before.length]? = some tree := by simp
    have first
        : (tree.places.map (before.length :: ·)).map
            (leafAt · (.node label (before ++ tree :: rest)))
          = tree.leaves.map some := by
      rw [← map_leafAt_places tree, List.map_map]
      refine List.map_congr_left fun place _ => ?_
      simp only [Function.comp_apply, leafAt, here, Option.bind_some]
    have others := map_leafAt_placesFrom label (before ++ [tree]) rest
    rw [List.length_append, List.append_assoc] at others
    rw [placesFrom, leavesOf, List.map_append, List.map_append, first]
    exact congrArg _ others

end

/-- A place of some children leads into one of them, by induction on the children. -/
theorem mem_placesFrom {position : Nat} {trees : List Tree} {place : List Nat}
    : place ∈ placesFrom position trees
      ↔ ∃ (offset : Nat) (child : Tree) (rest : List Nat),
          trees[offset]? = some child
          ∧ rest ∈ child.places
          ∧ place = (position + offset) :: rest := by
  induction trees generalizing position with
  | nil => simp [placesFrom]
  | cons tree trees ih =>
    rw [placesFrom, List.mem_append, List.mem_map, ih]
    constructor
    · rintro (⟨rest, member, rfl⟩ | ⟨offset, child, rest, found, member, rfl⟩)
      · exact ⟨0, tree, rest, rfl, member, rfl⟩
      · exact ⟨offset + 1, child, rest, found, member, by rw [Nat.add_assoc, Nat.add_comm 1]⟩
    · rintro ⟨offset, child, rest, found, member, rfl⟩
      cases offset with
      | zero =>
        cases found
        exact .inl ⟨rest, member, rfl⟩
      | succ offset =>
        exact .inr ⟨offset, child, rest, found, member, by rw [Nat.add_assoc, Nat.add_comm 1]⟩

/-- A place is one of those of a tree if and only if there is a leaf, by induction on the place. -/
theorem mem_places {tree : Tree} {place : List Nat}
    : place ∈ tree.places ↔ (tree.leafAt place).isSome := by
  induction place generalizing tree with
  | nil =>
    cases tree with
    | leaf value => simp [places, leafAt]
    | node label children => simp [places, leafAt, mem_placesFrom]
  | cons index rest ih =>
    cases tree with
    | leaf value => simp [places, leafAt]
    | node label children =>
      rw [places, mem_placesFrom, leafAt]
      constructor
      · rintro ⟨offset, child, tail, found, member, same⟩
        rw [Nat.zero_add] at same
        cases same
        rw [found, Option.bind_some]
        exact ih.mp member
      · intro present
        cases found : children[index]? with
        | none =>
          rw [found] at present
          cases present
        | some child =>
          rw [found, Option.bind_some] at present
          exact ⟨index, child, rest, found, ih.mpr present, by rw [Nat.zero_add]⟩

mutual

/-- The places of a tree are ordered, by mutual induction on the tree. -/
theorem pairwise_lt_places (tree : Tree) : tree.places.Pairwise (· < ·) := by
  cases tree with
  | leaf value => exact List.pairwise_singleton _ _
  | node label children => exact pairwise_lt_placesFrom 0 children

/-- The places of some children are ordered: within a child by mutual induction on the children, and
between two by their positions. -/
theorem pairwise_lt_placesFrom (position : Nat) (trees : List Tree)
    : (placesFrom position trees).Pairwise (· < ·) := by
  cases trees with
  | nil => exact .nil
  | cons tree rest =>
    rw [placesFrom, List.pairwise_append, List.pairwise_map]
    refine ⟨?_, pairwise_lt_placesFrom (position + 1) rest, ?_⟩
    · refine (pairwise_lt_places tree).imp fun less => ?_
      exact List.cons_lt_cons_iff.mpr (.inr ⟨rfl, less⟩)
    · intro left inside right outside
      obtain ⟨tail, -, rfl⟩ := List.mem_map.mp inside
      obtain ⟨offset, child, other, -, -, rfl⟩ := mem_placesFrom.mp outside
      exact List.cons_lt_cons_iff.mpr (.inl (by omega))

end

theorem leafPlaces_places (tree : Tree) : tree.LeafPlaces tree.places :=
  ⟨pairwise_lt_places tree, fun _ => mem_places⟩

/-- No other list of places is that of all leaves from left to right. -/
theorem LeafPlaces.eq_places {tree : Tree} {given : List (List Nat)} (all : tree.LeafPlaces given)
    : given = tree.places :=
  all.ordered.eq_of_mem_iff (pairwise_lt_places tree) fun place =>
    (all.complete place).trans mem_places.symm

/-- The leaves of a tree are the leaves at its places, in their order. -/
theorem filterMap_leafAt_places (tree : Tree)
    : tree.places.filterMap (leafAt · tree) = tree.leaves := by
  have same := congrArg (List.filterMap id) (map_leafAt_places tree)
  simpa only [List.filterMap_map, Function.comp_def, id, List.filterMap_some] using same

/-- The leaves of a tree are those that stand somewhere. -/
theorem mem_leaves_iff {tree : Tree} {leaf : Leaf}
    : leaf ∈ tree.leaves ↔ ∃ place, tree.leafAt place = some leaf := by
  rw [← filterMap_leafAt_places, List.mem_filterMap]
  constructor
  · rintro ⟨place, -, found⟩
    exact ⟨place, found⟩
  · rintro ⟨place, found⟩
    exact ⟨place, mem_places.mpr (Option.isSome_of_eq_some found), found⟩

end ReservedWords.Definition.Tree
