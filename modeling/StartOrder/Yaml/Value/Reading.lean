import StartOrder.Yaml.Node
import StartOrder.Yaml.Value.Scalar

/-!
# Reading values

The value that a node stands for, without an expectation of its kind. It fails where a scalar does
not fit the kind that its tag demands; `Node.wellKeyedValue` fails also where a mapping has equal
keys.
-/

namespace StartOrder.Yaml

/-- A value under a tag of the author's own, if there is one. -/
def Value.withTag (tag : Option Tag) (v : Value) : Value :=
  match tag.bind Tag.ownName? with
  | some name => .tagged name v
  | none => v

namespace Node

mutual

/-- The value that a node stands for. -/
def value : Node → Except Unreadable Value
  | .scalar _ tag style text => (Value.ofScalar tag style text).map (Value.withTag tag)
  | .sequence _ tag items => (valueItems items).map fun vs => Value.withTag tag (.sequence vs)
  | .mapping _ tag entries =>
    (valueEntries entries).map fun vs => Value.withTag tag (.mapping vs)

/-- The values of the items of a sequence. -/
def valueItems : List Node → Except Unreadable (List Value)
  | [] => .ok []
  | n :: rest => (value n).bind fun v => (valueItems rest).map (v :: ·)

/-- The values of the keys and values of a mapping. -/
def valueEntries : List (Node × Node) → Except Unreadable (List (Value × Value))
  | [] => .ok []
  | (key, n) :: rest =>
    (value key).bind fun k => (value n).bind fun v => (valueEntries rest).map ((k, v) :: ·)

end

/-- The value that a node stands for, if no mapping in it has equal keys. -/
def wellKeyedValue (n : Node) : Except Unreadable Value :=
  n.value.bind fun v => if v.wellKeyed then .ok v else .error .duplicateKey

end Node

end StartOrder.Yaml
