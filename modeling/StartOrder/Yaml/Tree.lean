import StartOrder.Yaml.Tag
import StartOrder.Yaml.Token
import StartOrder.Yaml.Unreadable

/-!
# Trees with aliases

A document as it is written: scalars, sequences and mappings, and aliases that refer to the number
of an anchored node. What an alias stands for is looked up in the anchors of the whole document, so
a tree may be finite where what it stands for is not. `Tree.size` counts the events that announce a
tree, by which the number of aliases is limited: one for a leaf, two for a collection.
-/

namespace StartOrder.Yaml

/-- A node of a document. -/
inductive Tree where
  | scalar (mark : Mark) (tag : Option Tag) (style : ScalarStyle) (text : String)
  | sequence (mark : Mark) (tag : Option Tag) (items : List Tree)
  | mapping (mark : Mark) (tag : Option Tag) (entries : List (Tree × Tree))
  | alias (mark : Mark) (anchor : Nat)
  deriving Inhabited

namespace Tree

/-- Where a node begins. -/
def mark : Tree → Mark
  | .scalar m .. => m
  | .sequence m .. => m
  | .mapping m .. => m
  | .alias m _ => m

/-- A plain scalar without a character. -/
def empty (m : Mark) : Tree := .scalar m none .plain ""

mutual

/-- The number of events that announce a tree. -/
def size : Tree → Nat
  | .scalar .. => 1
  | .sequence _ _ items => sizeItems items + 2
  | .mapping _ _ entries => sizeEntries entries + 2
  | .alias .. => 1

/-- The number of events that announce some trees. -/
def sizeItems : List Tree → Nat
  | [] => 0
  | t :: rest => size t + sizeItems rest

/-- The number of events that announce the keys and values of a mapping. -/
def sizeEntries : List (Tree × Tree) → Nat
  | [] => 0
  | (k, v) :: rest => size k + size v + sizeEntries rest

end

end Tree

/-- A document: its root, and the anchored nodes under the numbers of their anchors. -/
structure Document where
  root : Tree
  anchors : List (Nat × Tree)

/-- The node of an anchor. Of several with one number the one that begins last counts. -/
def Document.anchored? (d : Document) (anchor : Nat) : Option Tree :=
  d.anchors.foldl (fun best e =>
    if e.1 ≠ anchor then best
    else match best with
      | some t => if t.mark.index < e.2.mark.index then some e.2 else best
      | none => some e.2) none

end StartOrder.Yaml
