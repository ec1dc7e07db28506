import StartOrder.Recipe.ContentType
import StartOrder.Recipe.Environment
import StartOrder.Yaml.Record
import StartOrder.Yaml.Tree.Builder

/-!
# Reading recipes

A recipe is a document of two known fields, the version and the services, and each service is a
record of its own. Fields that are null count as absent. The other keys of both records are noted by
name.

Fields come in a few kinds, and there is one reader for each (`textField`, `listField`,
`numberField`, `valueField`, `buildField`), so that `Service.record` is a table. Two kinds are not
read from the document directly but from the value that it has there. The maps of a service are,
because they coerce what they find to texts. And so is a `build` section, because it may take
several forms and is tried for each; a fault in it is one of the section as a whole, and a key that
is none of its parts is passed over.
-/

namespace StartOrder

open Yaml (Spot Value FieldReader)

/-! ## Maps of texts -/

/-- What a field of a recipe may be refused for. -/
inductive FieldProblem where
  | notScalar
  | notMapOfScalars
  | notMapOrList
  | entryNotText
  | keyNotScalar
  | valueNotScalar (key : String)
  deriving DecidableEq, Repr

/-- The words for a problem of a field. -/
def FieldProblem.text : FieldProblem → String
  | .notScalar => "expected a scalar value"
  | .notMapOfScalars => "expected a mapping of scalar values"
  | .notMapOrList => "environment must be a mapping or a list of KEY=value entries"
  | .entryNotText => "environment entries must be strings"
  | .keyNotScalar => "keys must be scalars"
  | .valueNotScalar key => s!"value of '{key}' must be a scalar"

/-- The texts of an entry of a mapping; null is the empty text. -/
def textEntry (entry : Value × Value) : Except FieldProblem (String × String) :=
  match entry.1.scalarText?, entry.2 with
  | none, _ => .error .keyNotScalar
  | some key, .null => .ok (key, "")
  | some key, value => match value.scalarText? with
    | some text => .ok (key, text)
    | none => .error (.valueNotScalar key)

/-- The key and the value of an entry `KEY=value`. Without a sign the entry is a key alone. -/
def splitEntry (entry : String) : String × String :=
  let cs := entry.toList
  (String.ofList (cs.takeWhile (· ≠ '=')), String.ofList (cs.dropWhile (· ≠ '=')).tail)

/-- The key and the value of an entry of a list. -/
def listEntry (entry : Value) : Except FieldProblem (String × String) :=
  match entry.string? with
  | some text => .ok (splitEntry text)
  | none => .error .entryNotText

/-- The variables that an `environment` section sets. -/
def environmentMap (value : Value) : Except FieldProblem (NameMap String) :=
  match value with
  | .null => .ok ∅
  | .mapping entries => (entries.mapM textEntry).map NameMap.ofList
  | .sequence items => (items.mapM listEntry).map NameMap.ofList
  | _ => .error .notMapOrList

/-- The labels of a `labels` section. -/
def labelMap (value : Value) : Except FieldProblem (NameMap String) :=
  match value with
  | .null => .ok ∅
  | .mapping entries => (entries.mapM textEntry).map NameMap.ofList
  | _ => .error .notMapOfScalars

/-- The text of a `version`. -/
def versionText (value : Value) : Except FieldProblem (Option String) :=
  match value with
  | .null => .ok none
  | value => match value.scalarText? with
    | some text => .ok (some text)
    | none => .error .notScalar

/-! ## Build sections -/

namespace Build

/-- A part of a `build` section. It may be called by its name or by its number. -/
inductive Part where
  | context
  | dockerfile
  | other
  deriving DecidableEq

/-- The part that a key calls. A number with a minus sign calls none. -/
def part? : Value → Option Part
  | .text name =>
    some (if name = "context" then .context
      else if name = "dockerfile" then .dockerfile
      else .other)
  | .natural n =>
    some (if n = 0 then .context
      else if n = 1 then .dockerfile
      else .other)
  | _ => none

/-- The text of a part, which may be absent or null but not given twice. -/
def partText? (part : Part) (entries : List (Value × Value)) : Option (Option String) :=
  match entries.filter fun e => part? e.1 = some part with
  | [] => some none
  | [(_, .null)] => some none
  | [(_, .text s)] => some (some s)
  | _ => none

/-- The `build` section that a value is. -/
def ofValue? : Value → Option Build
  | .text s => some (.path s)
  | .mapping entries =>
    if entries.all fun e => (part? e.1).isSome then do
      return .parts (← partText? .context entries) (← partText? .dockerfile entries)
    else none
  | _ => none

end Build

/-! ## Fields -/

section Fields

variable {σ : Type}

/-- A field that is a text or absent. -/
def textField (set : σ → Option String → σ) : FieldReader σ := fun _ s record => do
  match ← s.present? with
  | none => return set record none
  | some s => return set record (some (← s.string))

/-- A field that is a list of texts. -/
def listField (set : σ → List String → σ) : FieldReader σ := fun _ s record => do
  match ← s.present? with
  | none => return set record []
  | some s => return set record (← (← s.items).mapM fun item => item.string)

/-- A field that is a number or absent. -/
def numberField (set : σ → Option UInt64 → σ) : FieldReader σ := fun _ s record => do
  match ← s.present? with
  | none => return set record none
  | some s => return set record (some (UInt64.ofNat (← s.unsigned)))

/-- A field that is read from its value. A value that is refused is a fault of the whole record. -/
def valueField {α : Type} (read : Value → Except FieldProblem α) (set : σ → α → σ) :
    FieldReader σ := fun owner s record => do
  let value ← match ← s.present? with
    | none => pure Value.null
    | some s => s.value
  match read value with
  | .ok a => return set record a
  | .error problem => throw (owner.complain (.refused problem.text))

/-- A `build` section or none. -/
def buildField (set : σ → Option Build → σ) : FieldReader σ := fun owner s record => do
  match ← s.present? with
  | none => return set record none
  | some s => match Build.ofValue? (← s.untagged) with
    | some build => return set record (some build)
    | none => throw (owner.complain (.noForm "Build"))

/-- The value of a key that is not known. It is read and forgotten. -/
def skipValue (s : Spot) : Except Yaml.Problem Unit := do
  if !(← s.untagged).wellKeyed then throw (.unreadable .duplicateKey)

end Fields

/-! ## Records -/

/-- The fields of a service. -/
def Service.record : Yaml.Record Service where
  name := "Service"
  fields := [
    ("image", textField fun r x => { r with image := x }),
    ("build", buildField fun r x => { r with build := x }),
    ("context", textField fun r x => { r with context := x }),
    ("dockerfile", textField fun r x => { r with dockerfile := x }),
    ("command", listField fun r x => { r with command := x }),
    ("entrypoint", listField fun r x => { r with entrypoint := x }),
    ("environment", valueField environmentMap fun r x => { r with environment := x }),
    ("depends_on", listField fun r x => { r with dependsOn := x }),
    ("links", listField fun r x => { r with links := x }),
    ("container_name", textField fun r x => { r with containerName := x }),
    ("labels", valueField labelMap fun r x => { r with labels := x }),
    ("expose", listField fun r x => { r with expose := x }),
    ("ports", listField fun r x => { r with ports := x }),
    ("volumes", listField fun r x => { r with volumes := x }),
    ("volumes_from", listField fun r x => { r with volumesFrom := x }),
    ("mem_limit", numberField fun r x => { r with memLimit := x })]
  other name s r := do
    skipValue s
    return { r with unknown := r.unknown.add name }

/-- Read a service. -/
def Service.read (s : Spot) : Except Yaml.Problem Service := Service.record.read {} s

/-- Read an entry of the `services` section. -/
def readServiceEntry (entry : Spot × Spot) : Except Yaml.Problem (String × Service) := do
  let name ← entry.1.string
  return (name, ← Service.read entry.2)

/-- The services of a `services` section; of two with one name the later counts. -/
def servicesField : FieldReader Environment := fun _ s e => do
  match ← s.present? with
  | none => return { e with services := ∅ }
  | some s => return { e with services := NameMap.ofList (← (← s.entries).mapM readServiceEntry) }

/-- The fields of an environment. -/
def Environment.record : Yaml.Record Environment where
  name := "Environment"
  fields := [
    ("version", valueField versionText fun e x => { e with version := x }),
    ("services", servicesField)]
  other name s e := do
    skipValue s
    return { e with unknown := e.unknown.add name }

/-- Read an environment. -/
def Environment.read (s : Spot) : Except Yaml.Problem Environment := Environment.record.read {} s

/-! ## Recipes -/

namespace Environment

/-- Read the text of a recipe. A blank text is a recipe without services. -/
def ofYaml (content : String) : Except Failure Environment :=
  if Text.allBlank content then .ok {}
  else match (Yaml.Document.ofText? content).mapError .unreadable >>= (·.read Environment.read) with
    | .ok e => .ok e
    | .error problem => .error (.malformed (.document problem))

/-- Read a recipe that is declared with a media type. -/
def ofRecipe (content mediaType : String) : Except Failure Environment :=
  match ContentType.ofMediaType mediaType with
  | .ok .yaml => ofYaml content
  | .error e => .error e

end Environment

end StartOrder
