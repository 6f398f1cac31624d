import Mathlib.Data.List.Basic

/-! Trees whose nodes have a label and items: every item with the labels above it. -/

namespace BuildLens

inductive Tree (Label Item : Type) where
  | node (label : Label) (items : List Item) (children : List (Tree Label Item))

namespace Tree

variable {Label Item : Type}

mutual

/-- The items of a tree with the labels of the nodes they are under, the nearest first, down
from a node below the labels of `outer`. -/
def located : Tree Label Item → List Label → List (List Label × Item)
  | node label items children, outer =>
    items.map (fun item => (label :: outer, item)) ++ locatedAll children (label :: outer)

def locatedAll : List (Tree Label Item) → List Label → List (List Label × Item)
  | [], _ => []
  | tree :: rest, outer => located tree outer ++ locatedAll rest outer

end

/-- Further labels outside come after all others. -/
def under (outer : List Label) (entry : List Label × Item) : List Label × Item :=
  (entry.1 ++ outer, entry.2)

theorem locatedAll_append (trees : List (Tree Label Item)) (inner outer : List Label) :
    locatedAll trees (inner ++ outer) = (locatedAll trees inner).map (under outer) := by
  match trees with
  | [] => rfl
  | .node label items children :: rest =>
    have below := locatedAll_append children (label :: inner) outer
    have beside := locatedAll_append rest inner outer
    rw [List.cons_append] at below
    rw [locatedAll, locatedAll, located, located, below, beside, List.map_append, List.map_append, List.map_map]
    rfl

end Tree

end BuildLens
