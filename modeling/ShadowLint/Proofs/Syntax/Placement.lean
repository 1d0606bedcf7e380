import Mathlib.Data.List.Nodup
import ShadowLint.Proofs.Syntax.Preorder

/-!
# Places of nodes

Nodes stand apart when no two of them have the same place.  What is read behind different steps
from one place stands apart, so it is enough to look at one step after the other.
-/

namespace ShadowLint

/-- The nodes stand at a place or below it, and no two of them at the same one. -/
structure Placed (place : Place) (nodes : List Node) : Prop where
  /-- All steps to the place lead on to the nodes. -/
  below : ∀ node ∈ nodes, place <:+ node.place
  /-- The nodes stand apart. -/
  distinct : (nodes.map Node.place).Nodup

theorem Placed.nil (place : Place) : Placed place [] := ⟨by simp, by simp⟩

theorem step_eq_of_suffix {place lower : Place} {left right : Step}
    (left_suffix : left :: place <:+ lower) (right_suffix : right :: place <:+ lower) :
    left = right := by
  have nested := List.suffix_of_suffix_length_le left_suffix right_suffix (by simp)
  have equal := nested.eq_of_length (by simp)
  exact (List.cons.inj equal).1

section Steps

variable {Item : Type} {place : Place} {items : List Item} {step : Item → Step}
  {nodes : Item → List Node}

/-- Nodes behind different steps stand apart. -/
theorem Placed.flatMap (apart : (items.map step).Nodup)
    (each : ∀ item ∈ items, Placed (step item :: place) (nodes item)) :
    Placed place (items.flatMap nodes) where
  below node mem := by
    obtain ⟨item, item_mem, node_mem⟩ := List.mem_flatMap.mp mem
    exact (List.suffix_cons _ _).trans ((each item item_mem).below node node_mem)
  distinct := by
    rw [List.map_flatMap, List.nodup_flatMap]
    refine ⟨fun item mem => (each item mem).distinct, ?_⟩
    refine (List.pairwise_map.mp apart).imp_of_mem fun {left right} left_mem right_mem differ => ?_
    intro shared left_shared right_shared
    obtain ⟨leftNode, leftNode_mem, rfl⟩ := List.mem_map.mp left_shared
    obtain ⟨rightNode, rightNode_mem, same⟩ := List.mem_map.mp right_shared
    have left_suffix := (each left left_mem).below leftNode leftNode_mem
    have right_suffix := (each right right_mem).below rightNode rightNode_mem
    exact differ (step_eq_of_suffix left_suffix (same ▸ right_suffix))

theorem Placed.cons_flatMap {root : Node} (apart : (items.map step).Nodup)
    (each : ∀ item ∈ items, Placed (step item :: root.place) (nodes item)) :
    Placed root.place (root :: items.flatMap nodes) where
  below node mem := by
    rcases List.mem_cons.mp mem with rfl | mem
    · exact List.suffix_refl _
    · exact (Placed.flatMap apart each).below node mem
  distinct := by
    rw [List.map_cons, List.nodup_cons]
    refine ⟨fun shared => ?_, (Placed.flatMap apart each).distinct⟩
    obtain ⟨node, mem, same⟩ := List.mem_map.mp shared
    obtain ⟨item, item_mem, node_mem⟩ := List.mem_flatMap.mp mem
    have longer := ((each item item_mem).below node node_mem).length_le
    rw [same, List.length_cons] at longer
    omega

end Steps

/-- The place tells which one of the nodes stands there. -/
theorem Placed.eq_of_place_eq {place : Place} {nodes : List Node} (placed : Placed place nodes)
    {left right : Node} (left_mem : left ∈ nodes) (right_mem : right ∈ nodes)
    (same : left.place = right.place) : left = right :=
  List.inj_on_of_nodup_map placed.distinct left_mem right_mem same

end ShadowLint
