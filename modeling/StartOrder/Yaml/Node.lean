import StartOrder.Yaml.Tree

/-!
# Trees without aliases

A document as its readers walk it: every alias replaced by the node that it refers to
(`Document.expand`). An anchored node may contain an alias to itself, and a few aliases within each
other may stand for very many nodes, so the replacement is bounded twice: by the depth of the
collections, and by the number of aliases that are followed, in proportion to the size of the
document as it is written.

A reader that skips the values of unknown fields never follows the aliases in them.
`Document.keeping` is the document that is left for it.
-/

namespace StartOrder.Yaml

/-- Where a node was found. -/
structure Place where
  /-- Where the node begins; for an aliased one, where the node begins that the alias refers to. -/
  mark : Mark := {}
  /-- Whether an alias stands for the node. -/
  aliased : Bool := false
  deriving DecidableEq, Repr, Inhabited

/-- A node of a document without aliases. -/
inductive Node where
  | scalar (place : Place) (tag : Option Tag) (style : ScalarStyle) (text : String)
  | sequence (place : Place) (tag : Option Tag) (items : List Node)
  | mapping (place : Place) (tag : Option Tag) (entries : List (Node × Node))
  deriving Inhabited

namespace Node

/-- Where a node was found. -/
def place : Node → Place
  | .scalar p .. => p
  | .sequence p .. => p
  | .mapping p .. => p

/-- Where a node begins. -/
def mark (n : Node) : Mark := n.place.mark

/-- The text of a scalar as it is spelled. -/
def text? : Node → Option String
  | .scalar _ _ _ text => some text
  | _ => none

/-- The name under which a path shows the value of a key: scalars have one where they are spelled
out. -/
def label? : Node → Option String
  | .scalar p _ _ text => if p.aliased then none else some text
  | _ => none

/-- A scalar in quotes, found nowhere in particular. -/
def quoted (text : String) : Node := .scalar {} none .quoted text

/-- A plain scalar, found nowhere in particular. -/
def plain (text : String) : Node := .scalar {} none .plain text

end Node

/-! ## Replacing aliases -/

/-- A computation that counts the aliases it follows. -/
abbrev Expansion := StateT Nat (Except Unreadable)

/-- How many collections may stand within each other. -/
def depthLimit : Nat := 128

/-- How many aliases may be followed for each event of a document. -/
def aliasFactor : Nat := 100

namespace Document

/-- The node that a tree stands for, and whether it is an alias. At most `limit` aliases are
followed. -/
def follow (d : Document) (limit : Nat) : Tree → Expansion (Tree × Bool)
  | .alias m anchor => do
    modify (· + 1)
    if limit < (← get) then throw .tooManyAliases
    match d.anchored? anchor with
    | some t => pure (t, true)
    | none => throw (.unknownAnchor m)
  | t => pure (t, false)

/-- A tree with its aliases replaced, in which at most `depth` collections stand within each
other. -/
def expandTree (d : Document) (limit : Nat) : Nat → Tree → Expansion Node := fun depth t => do
  match ← d.follow limit t, depth with
  | (.scalar m tag style text, aliased), _ => pure (.scalar ⟨m, aliased⟩ tag style text)
  | (.sequence m tag items, aliased), depth + 1 =>
    return .sequence ⟨m, aliased⟩ tag (← items.mapM (expandTree d limit depth))
  | (.mapping m tag entries, aliased), depth + 1 =>
    return .mapping ⟨m, aliased⟩ tag (← entries.mapM fun (key, value) => do
      return (← expandTree d limit depth key, ← expandTree d limit depth value))
  | (.alias m _, _), _ => throw (.unknownAnchor m)
  | _, 0 => throw .tooDeep
termination_by structural depth => depth

/-- The number of aliases that may be followed in a document. -/
def aliasLimit (d : Document) : Nat := aliasFactor * d.root.size

/-- The root with its aliases replaced. -/
def expand (d : Document) (limit : Nat := d.aliasLimit) : Except Unreadable Node :=
  (d.expandTree limit depthLimit d.root).run' 0

/-- The spelling of a key, be it an alias or not. -/
def keyText? (d : Document) : Tree → Option String
  | .scalar _ _ _ text => some text
  | .alias _ anchor => match d.anchored? anchor with
    | some (.scalar _ _ _ text) => some text
    | _ => none
  | _ => none

/-- A document whose root keeps the values of the fields with the given names; the values of the
other fields are left out, with all that is in them. -/
def keeping (d : Document) (names : List String) : Document :=
  match d.root with
  | .mapping m tag entries =>
    let keep (e : Tree × Tree) : Tree × Tree :=
      if (d.keyText? e.1).any names.contains then e else (e.1, .empty e.2.mark)
    { d with root := .mapping m tag (entries.map keep) }
  | _ => d

end Document

end StartOrder.Yaml
