import StartOrder.Text.Quoted
import StartOrder.Yaml.Node
import StartOrder.Yaml.Value.Reading

/-!
# Documents that are not what their reader expects

A text fails its reader for one of two reasons (`Problem`): it is no document, or it is one that
holds something else. In the second case a `Mismatch` tells which node is at fault, by the path to
it and the place where it begins, and what is wrong with it. The wording is part of what a user
sees, so complaints are kept as data and put into words at the end.
-/

namespace StartOrder.Yaml

/-! ## Paths -/

/-- A step into a collection: to a field, to an item, or to the value of a key without a name. -/
inductive Step where
  | field (name : String)
  | item (index : Nat)
  | unnamed
  deriving DecidableEq, Repr

/-- The steps that lead to a node, the last one first. -/
abbrev Path := List Step

/-- A path as text; the root is a dot, and fields follow their parent behind a dot. -/
def Path.text : Path → String
  | [] => "."
  | .item index :: parent => s!"{text parent}[{index}]"
  | .field name :: parent => stem parent ++ name
  | .unnamed :: parent => stem parent ++ "?"
where
  /-- What stands before the name of a field. -/
  stem (parent : Path) : String :=
    match parent with
    | [] => ""
    | parent => text parent ++ "."

/-! ## Complaints -/

/-- What a reader expects of a node. -/
inductive Expected where
  | string
  | address
  | unsigned
  | sequence
  | mapping
  | fieldName
  | record (name : String)
  deriving DecidableEq, Repr

/-- An expectation in words. -/
def Expected.text : Expected → String
  | .string => "a string"
  | .address => "a string representing an URL"
  | .unsigned => "u64"
  | .sequence => "a sequence"
  | .mapping => "a map"
  | .fieldName => "field identifier"
  | .record name => "struct " ++ name

/-- A value in words, as found where something else was expected. -/
def Value.found : Value → String
  | .null => "unit value"
  | .bool b => "boolean " ++ ticked (if b then "true" else "false")
  | .natural n => "integer " ++ ticked (toString n)
  | .negated n => "integer " ++ ticked (toString (-(n : Int)))
  | .float x => "floating point " ++ ticked x.positionalText
  | .text s => "string " ++ Text.quoted s
  | .sequence _ => "sequence"
  | .mapping _ => "map"
  | .tagged _ _ => "enum"
where
  /-- A word between grave accents. -/
  ticked (word : String) : String := s!"\x60{word}\x60"

/-- What is wrong with a node. -/
inductive Complaint where
  /-- A value was found where something else was expected. -/
  | unexpected (found : Value) (expected : Expected)
  /-- A tag stands where the kind of a value is still open. -/
  | tagged
  /-- A field is given twice. -/
  | duplicateField (name : String)
  /-- A value has none of the forms that a type allows. -/
  | noForm (name : String)
  /-- The value is refused for a reason of the reader's. -/
  | refused (reason : String)
  deriving Inhabited

/-- A complaint in words. -/
def Complaint.text : Complaint → String
  | .unexpected found expected => s!"invalid type: {found.found}, expected {expected.text}"
  | .tagged => "untagged and internally tagged enums do not support enum input"
  | .duplicateField name => s!"duplicate field \x60{name}\x60"
  | .noForm name => s!"data did not match any variant of untagged enum {name}"
  | .refused reason => reason

/-! ## Mismatches -/

/-- A complaint about a node of a document. -/
structure Mismatch where
  path : Path
  mark : Mark
  complaint : Complaint
  deriving Inhabited

/-- The sentence that tells a mismatch. The root is not named, and neither is the place where a text
begins. -/
def Mismatch.message (m : Mismatch) : String :=
  let path := m.path.text
  let subject := if path = "." then "" else path ++ ": "
  let place :=
    if m.mark.line = 0 && m.mark.column = 0 then ""
    else s!" at line {m.mark.line + 1} column {m.mark.column + 1}"
  subject ++ m.complaint.text ++ place

/-- Why a text does not hold what its reader expects. -/
inductive Problem where
  | unreadable (reason : Unreadable)
  | mismatch (m : Mismatch)
  deriving Inhabited

/-- The sentence that tells a problem. -/
def Problem.message : Problem → String
  | .unreadable reason => reason.message
  | .mismatch m => m.message

end StartOrder.Yaml
