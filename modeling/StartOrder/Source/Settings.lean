import StartOrder.Failure
import StartOrder.Recipe.Timespan
import StartOrder.Url.Address
import StartOrder.Yaml.Record
import StartOrder.Yaml.Tree.Builder

/-!
# Settings

How recipes are downloaded: the interface whose host is trusted with tokens, the longest time that a
download may take, and the size of the largest recipe. Each has a default. Settings that are read
are checked as a whole at once (`Settings.validate`), and the first thing that is wrong with them is
reported, in the order of the fields.

The document of settings is read by the same readers of records as a recipe is, except that fields
which are not known are ignored rather than kept.
-/

namespace StartOrder

open Yaml (Spot FieldReader)

/-- How recipes are downloaded. -/
structure Settings where
  apiEndpoint : Option Url := none
  /-- The longest time of a download, as it is spelled. -/
  fetchTimeout : String := "30s"
  /-- The size of the largest recipe in bytes. -/
  maxRecipeSize : UInt64 := 1048576
  deriving DecidableEq

namespace Settings

/-- The longest time of a download, which may not be zero. -/
def timeout (s : Settings) : Except Failure Timespan :=
  match (Timespan.ofText? s.fetchTimeout).filter (!·.isZero) with
  | some t => .ok t
  | none => .error (.settings (.timeout s.fetchTimeout))

/-- What is wrong with an endpoint, if anything is. -/
def endpointProblem? (u : Url) : Option SettingsProblem :=
  if !u.isWeb then some (.endpointScheme u.text)
  else if u.host?.isNone then some (.endpointHost u.text)
  else none

/-- The first reason why settings cannot be used. -/
def validate (s : Settings) : Except Failure Unit := do
  if let some problem := s.apiEndpoint.bind endpointProblem? then .error (.settings problem)
  let _ ← s.timeout
  if s.maxRecipeSize = 0 then .error (.settings .zeroSize)

/-- The host that receives tokens: that of the endpoint. -/
def trustedHost (s : Settings) : Option Url.Host := s.apiEndpoint.bind Url.host?

/-! ## Reading -/

/-- The field of the endpoint. -/
def endpointField : FieldReader Settings := fun _ s settings => do
  match ← s.present? with
  | none => return { settings with apiEndpoint := none }
  | some s =>
    let text ← s.string .address
    match Url.ofText text with
    | .ok url => return { settings with apiEndpoint := some url }
    | .error problem =>
      throw (s.complain (.refused (problem.message ++ ": " ++ Text.quoted text)))

/-- The fields of settings. -/
def record : Yaml.Record Settings where
  name := "LoaderSettings"
  fields := [
    ("api_endpoint", endpointField),
    ("fetch_timeout", fun _ s settings => do
      return { settings with fetchTimeout := ← s.string }),
    ("max_recipe_size", fun _ s settings => do
      return { settings with maxRecipeSize := UInt64.ofNat (← s.unsigned) })]
  other _ _ settings := .ok settings

/-- Read the document of settings. The values of unknown fields are not looked at. -/
def ofDocument (d : Yaml.Document) : Except Yaml.Problem Settings :=
  d.read (record.read {}) (d.keeping (record.fields.map (·.1)))

/-- Read the text of settings, which must be usable. A blank text leaves the defaults. -/
def ofYaml (content : String) : Except Failure Settings :=
  if Text.allBlank content then .ok {}
  else match (Yaml.Document.ofText? content).mapError .unreadable >>= ofDocument with
    | .ok s => s.validate.map fun _ => s
    | .error problem => .error (.settings (.document problem))

end Settings

end StartOrder
