import StartOrder.Number.Shortest

/-!
# Values

What the nodes of a document stand for, once their spelling is forgotten. Integers keep their sign
apart, since `-0` is an integer with one, and a value may carry a tag of the author's own.

Two values are equal if they denote the same (`Value.equals`), so that the integers `0` and `-0`
are, and mappings in any order of their entries; but an integer never equals a floating-point
number. A mapping with two equal keys is no value that a reader accepts (`Value.wellKeyed`).
-/

namespace StartOrder.Yaml

open Number (Binary64)

/-- What a node stands for. -/
inductive Value where
  | null
  | bool (b : Bool)
  /-- An integer without a minus sign. -/
  | natural (n : Nat)
  /-- An integer with a minus sign, which zero may have too. -/
  | negated (n : Nat)
  | float (x : Binary64)
  | text (s : String)
  | sequence (items : List Value)
  | mapping (entries : List (Value × Value))
  | tagged (tag : String) (value : Value)
  deriving Inhabited

namespace Value

mutual

/-- Whether two values are equal. An integer never equals a floating-point number. -/
def equals : Value → Value → Bool
  | .null, .null => true
  | .bool a, .bool b => a == b
  | .natural a, .natural b => a == b
  | .negated a, .negated b => a == b
  | .natural a, .negated b => a == 0 && b == 0
  | .negated a, .natural b => a == 0 && b == 0
  | .float a, .float b => a.equals b
  | .text a, .text b => a == b
  | .sequence as, .sequence bs => equalItems as bs
  | .mapping as, .mapping bs => as.length == bs.length && allIn as bs
  | .tagged s a, .tagged t b => s == t && equals a b
  | _, _ => false

/-- Whether two lists hold equal values, one by one. -/
def equalItems : List Value → List Value → Bool
  | [], [] => true
  | a :: as, b :: bs => equals a b && equalItems as bs
  | _, _ => false

/-- Whether each entry of a mapping is equal to one of another. -/
def allIn : List (Value × Value) → List (Value × Value) → Bool
  | [], _ => true
  | (key, value) :: rest, bs =>
    bs.any (fun e => equals key e.1 && equals value e.2) && allIn rest bs

end

/-- Whether no two entries of a mapping have equal keys. -/
def distinctKeys : List (Value × Value) → Bool
  | [] => true
  | (key, _) :: rest => !rest.any (fun e => equals key e.1) && distinctKeys rest

mutual

/-- Whether no mapping in a value has two equal keys. -/
def wellKeyed : Value → Bool
  | .sequence items => wellKeyedItems items
  | .mapping entries => distinctKeys entries && wellKeyedEntries entries
  | .tagged _ v => wellKeyed v
  | _ => true

/-- Whether no mapping in the items of a sequence has two equal keys. -/
def wellKeyedItems : List Value → Bool
  | [] => true
  | v :: rest => wellKeyed v && wellKeyedItems rest

/-- Whether no mapping in the keys and values of a mapping has two equal keys. -/
def wellKeyedEntries : List (Value × Value) → Bool
  | [] => true
  | (key, v) :: rest => wellKeyed key && wellKeyed v && wellKeyedEntries rest

end

/-- The text of a scalar; null has none, and neither has a value with a tag. -/
def scalarText? : Value → Option String
  | .text s => some s
  | .natural n => some (toString n)
  | .negated n => some (toString (-(n : Int)))
  | .float x => some x.scientificText
  | .bool b => some (if b then "true" else "false")
  | _ => none

/-- The text of a text, whatever its tags. -/
def string? : Value → Option String
  | .text s => some s
  | .tagged _ v => string? v
  | _ => none

end Value

end StartOrder.Yaml
