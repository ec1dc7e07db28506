import StartOrder.Yaml.Spot

/-!
# Reading records

A record is a mapping some of whose keys are known fields. The entries are read in the order in
which they are written, each into the record as read so far, so the first fault of a document is the
one that is reported. A known field must not be given twice; what becomes of other keys is up to the
record.
-/

namespace StartOrder.Yaml

/-- Reads the value of a field, given the spot of the record, into the record read so far. -/
abbrev FieldReader (σ : Type) := Spot → Spot → σ → Except Problem σ

/-- The kinds of entries that a record has. -/
structure Record (σ : Type) where
  /-- The name of the record in complaints. -/
  name : String
  /-- The known fields. -/
  fields : List (String × FieldReader σ)
  /-- What becomes of the value under a key that is no known field. -/
  other : String → Spot → σ → Except Problem σ

namespace Record

variable {σ : Type}

/-- Whether a name is that of a known field. -/
def knows (r : Record σ) (name : String) : Bool := r.fields.any (·.1 == name)

/-- Read one entry into a record. The names of the fields read before go along. -/
def readEntry (r : Record σ) (owner : Spot) (state : σ × List String) (entry : Spot × Spot) :
    Except Problem (σ × List String) := do
  let name ← entry.1.string .fieldName
  match r.fields.lookup name with
  | none => return (← r.other name entry.2 state.1, state.2)
  | some read =>
    if state.2.contains name then throw (owner.complain (.duplicateField name))
    return (← read owner entry.2 state.1, name :: state.2)

/-- Read a mapping as a record, on the values that absent fields have. -/
def read (r : Record σ) (absent : σ) (s : Spot) : Except Problem σ := do
  let state ← (← s.entries (.record r.name)).foldlM (r.readEntry s) (absent, [])
  return state.1

end Record

/-! ## Whole texts -/

/-- Read the root of a document. Where that fails, a document that has no value at all is reported
as unreadable, whatever its reader complains of. -/
def Document.read {α : Type} (d : Document) (reader : Spot → Except Problem α)
    (part : Document := d) : Except Problem α :=
  match (part.expand d.aliasLimit).mapError .unreadable >>= fun root => reader ⟨[], root⟩ with
  | .ok a => .ok a
  | .error problem => match d.expand >>= Node.wellKeyedValue with
    | .ok _ => .error problem
    | .error reason => .error (.unreadable reason)

end StartOrder.Yaml
