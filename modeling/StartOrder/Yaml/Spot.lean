import StartOrder.Yaml.Mismatch

/-!
# Reading nodes as what they are expected to be

Readers go through a document from spot to spot: a spot is a node together with the path that leads
to it, so that a complaint can say where it arose. Where nothing at all stands, it is null, an empty
sequence or an empty mapping, whichever is looked for.

A tag does not matter to a reader that knows which kind of node it expects. Where the kind is still
open, a tag of the author's own is a fault for some readers (`Spot.untagged`) and part of the value
for others (`Spot.value`).
-/

namespace StartOrder.Yaml

/-- A node and the path that leads to it. -/
structure Spot where
  path : Path := []
  node : Node
  deriving Inhabited

namespace Spot

/-- A complaint about the node at a spot. -/
def complain (s : Spot) (complaint : Complaint) : Problem :=
  .mismatch ⟨s.path, s.node.mark, complaint⟩

/-- The problem that a node is not what is expected. -/
def unexpected (s : Spot) (expected : Expected) : Problem :=
  match s.node with
  | .scalar _ tag style text => match Value.ofScalar tag style text with
    | .ok found => s.complain (.unexpected found expected)
    | .error reason => .unreadable reason
  | .sequence .. => s.complain (.unexpected (.sequence []) expected)
  | .mapping .. => s.complain (.unexpected (.mapping []) expected)

/-- The text of a scalar as it is spelled. -/
def string (s : Spot) (expected : Expected := .string) : Except Problem String :=
  match s.node.text? with
  | some text => .ok text
  | none => .error (s.unexpected expected)

/-- Whether a scalar may spell a number: it is plain, or a block of lines that is tagged as one. -/
def maySpellNumber (tag : Option Tag) (style : ScalarStyle) : Bool :=
  style = .plain || (style = .literal && tag = some (.core .int))

/-- A natural number of at most 64 bits. -/
def unsigned (s : Spot) : Except Problem Nat :=
  match s.node with
  | .scalar _ tag style text =>
    match (unsigned? text).filter fun n => maySpellNumber tag style && n < UInt64.size with
    | some n => .ok n
    | none => .error (s.unexpected .unsigned)
  | _ => .error (s.unexpected .unsigned)

/-- Whether a node is a plain scalar without a character: nothing stands where it should be. -/
def isBlank (s : Spot) : Bool :=
  match s.node with
  | .scalar _ _ style text => style = .plain && text.isEmpty
  | _ => false

/-- The spot itself, unless its node is null. -/
def present? (s : Spot) : Except Problem (Option Spot) :=
  match s.node with
  | .scalar _ tag .plain text =>
    if tag = some (.core .null) then
      if isNull text then .ok none else .error (.unreadable .badCoreScalar)
    else if tag = none && (text.isEmpty || isNull text) then .ok none
    else .ok (some s)
  | _ => .ok (some s)

/-- The items of a sequence. -/
def items (s : Spot) : Except Problem (List Spot) :=
  match s.node with
  | .sequence _ _ items => .ok (items.zipIdx.map fun (n, i) => ⟨.item i :: s.path, n⟩)
  | _ => if s.isBlank then .ok [] else .error (s.unexpected .sequence)

/-- The keys and values of a mapping. A key has the path of the mapping. -/
def entries (s : Spot) (expected : Expected := .mapping) : Except Problem (List (Spot × Spot)) :=
  match s.node with
  | .mapping _ _ entries => .ok (entries.map fun (key, value) =>
      (⟨s.path, key⟩, ⟨(key.label?.elim .unnamed .field) :: s.path, value⟩))
  | _ => if s.isBlank then .ok [] else .error (s.unexpected expected)

/-! ## Nodes of any kind -/

/-- The value of a node. -/
def value (s : Spot) : Except Problem Value := s.node.wellKeyedValue.mapError .unreadable

mutual

/-- The problem of a tag of its own somewhere in a node, if there is one. -/
def findTag (path : Path) : Node → Option Problem
  | .scalar p tag _ _ => ofTag path p tag
  | .sequence p tag items => (ofTag path p tag).or (findTagItems path 0 items)
  | .mapping p tag entries => (ofTag path p tag).or (findTagEntries path entries)

/-- The first problem of a tag in the items of a sequence from an index on. -/
def findTagItems (path : Path) (index : Nat) : List Node → Option Problem
  | [] => none
  | n :: rest => (findTag (.item index :: path) n).or (findTagItems path (index + 1) rest)

/-- The first problem of a tag in the keys and values of a mapping. -/
def findTagEntries (path : Path) : List (Node × Node) → Option Problem
  | [] => none
  | (key, n) :: rest =>
    (findTag path key).or
      ((findTag (key.label?.elim .unnamed .field :: path) n).or (findTagEntries path rest))

/-- The problem of a tag at a place. -/
def ofTag (path : Path) (p : Place) (tag : Option Tag) : Option Problem :=
  (tag.bind Tag.ownName?).map fun _ => .mismatch ⟨path, p.mark, .tagged⟩

end

/-- The value of a node that must not have a tag of its own anywhere in it. -/
def untagged (s : Spot) : Except Problem Value :=
  match findTag s.path s.node with
  | some problem => .error problem
  | none => s.node.value.mapError .unreadable

end Spot

end StartOrder.Yaml
