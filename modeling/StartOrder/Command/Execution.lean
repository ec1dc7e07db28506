import StartOrder.Command.Arguments
import StartOrder.Command.Help
import StartOrder.Command.Report
import StartOrder.Json.Value
import StartOrder.Plan
import StartOrder.Source.Files
import StartOrder.Source.Loader

/-!
# Commands

What the commands do, given the files and the web.

An invocation is executed in three steps. The settings come from a file if one is named, then from
the options, and are checked behind these (`settingsOf`). The recipe comes from an address or from a
file (`readRecipe`). Then `order` prints the plan (`reportOrder`), and `validate` announces success
and sums the recipe up (`reportValidation`); either ends with the first trouble that it meets.

`Ending.ofArguments` is the program as somebody sees it who calls it: an exit code, and a text on
each of two channels.
-/

namespace StartOrder.Command

/-- The settings of an invocation, which must be usable. -/
def settingsOf (files : Files) (i : Invocation) : Except Trouble Settings := do
  let settings ← match i.settings with
    | some path => (Settings.ofFile files path).mapError .failure
    | none => pure {}
  let settings ← match i.apiEndpoint with
    | some text => match Url.ofText text with
      | .ok url => pure { settings with apiEndpoint := some url }
      | .error problem => throw (.badEndpoint text problem)
    | none => pure settings
  let settings := match i.fetchTimeout with
    | some timeout => { settings with fetchTimeout := timeout }
    | none => settings
  settings.validate.mapError .failure
  return settings

/-- Whether a recipe is named by its address on the web. -/
def isRemote (recipe : String) : Bool :=
  "http://".isPrefixOf recipe || "https://".isPrefixOf recipe

/-- The descriptor of a recipe that is named by its address or its file. -/
def describe (files : Files) (recipe contentType : String) : Except Failure Descriptor :=
  if isRemote recipe then .ok { location := some recipe, contentType }
  else match files recipe with
    | .ok content => .ok { content := some content, contentType }
    | .error problem => .error (.settings (.recipeFile recipe problem))

/-- The environment of the recipe that an invocation names, read on behalf of its token. -/
def readRecipe (files : Files) (web : Web) (settings : Settings) (i : Invocation) :
    Traced (Except Failure Environment) :=
  match describe files i.recipe i.contentType, Loader.ofSettings settings with
  | .error f, _ => ⟨[], .error f⟩
  | .ok _, .error f => ⟨[], .error f⟩
  | .ok descriptor, .ok loader => loader.read web (some { token := i.token }) descriptor

/-! ## Orders -/

/-- A plan as JSON: its layers, or its order and weights. -/
def planJson (p : Plan) (layers : Bool) : Json :=
  if layers then .ofFields [("layers", .array (p.layers.map Json.texts))]
  else .ofFields [("order", .texts p.order),
    ("weights", .ofFields (p.weights.toList.map fun e => (e.1, .ofNat e.2)))]

/-- A plan as it is printed. -/
def planLines (p : Plan) (json layers : Bool) : List String :=
  if json then [(planJson p layers).pretty]
  else if layers then
    p.layers.zipIdx.map fun (layer, i) => s!"{i}: " ++ ", ".intercalate layer
  else p.order

/-- Print the order of an environment. -/
def reportOrder (read : Traced (Except Failure Environment)) (json layers : Bool) : Report :=
  match read.result >>= Environment.plan with
  | .ok plan =>
    { messages := (planLines plan json layers).map .status, requests := read.requests }
  | .error f => { trouble := some (.failure f), requests := read.requests }

/-! ## Validation -/

/-- What a service is started from, in words. -/
def sourceText (s : Service) : String :=
  match s.image, s.buildContext with
  | some image, _ => "image " ++ image
  | none, some context => "build " ++ context
  | none, none => "unknown"

/-- The line on a service. -/
def serviceLine (name : String) (s : Service) (dependencies : List String) : String :=
  let line := s!"  - {name} ({sourceText s})"
  if dependencies.isEmpty then line else line ++ " after " ++ ", ".intercalate dependencies

/-- The lines on some services, up to the first with a link that is malformed. -/
def serviceMessages : List (String × Service) → List Message × Option Failure
  | [] => ([], none)
  | (name, s) :: rest => match s.dependencyNames with
    | .error f => ([], some f)
    | .ok dependencies =>
      let (messages, failure) := serviceMessages rest
      (.status (serviceLine name s dependencies) :: messages, failure)

/-- The lines on a valid environment. -/
def summary (e : Environment) : List Message × Option Failure :=
  let (services, failure) := serviceMessages e.services.toList
  (e.warnings.map .warning ++ [.success "Recipe is valid", .blank] ++
    (e.version.toList.map fun version => .status ("Version: " ++ version)) ++
    .status s!"Services: {e.services.size}" :: services, failure)

/-- Validate a recipe and sum up what it holds. -/
def reportValidation (recipe : String) (read : Traced (Except Failure Environment)) : Report :=
  let first := Message.status s!"Validating {recipe}..."
  match read.result with
  | .error f =>
    { messages := [first, .error "Recipe failed to load"], trouble := some (.failure f)
      requests := read.requests }
  | .ok e => match e.validate with
    | .error f => { messages := [first], trouble := some (.failure f), requests := read.requests }
    | .ok _ =>
      let (messages, failure) := summary e
      { messages := first :: messages, trouble := failure.map .failure
        requests := read.requests }

/-! ## Command lines -/

/-- The report of an invocation. -/
def execute (files : Files) (web : Web) (i : Invocation) : Report :=
  match settingsOf files i with
  | .error trouble => { trouble := some trouble }
  | .ok settings =>
    let read := readRecipe files web settings i
    match i.action with
    | .order json layers => reportOrder read json layers
    | .validate => reportValidation i.recipe read

/-- How a command line ends. -/
structure Ending where
  code : Nat
  out : String := ""
  err : String := ""
  requests : List Url := []

/-- What is said about a command line that is malformed. -/
def usageText : String := "error: invalid command line\n\nFor more information, try '--help'.\n"

/-- The ending of a command line, given the variables, the files and the web. -/
def Ending.ofArguments (vars : String → Option String) (files : Files) (web : Web)
    (words : List String) : Ending :=
  match Invocation.ofArguments vars words with
  | .error .usage => { code := 2, err := usageText }
  | .error (.help command) => { code := 0, out := helpText vars command }
  | .ok i =>
    let r := execute files web i
    { code := r.code, out := r.out, err := r.err, requests := r.requests }

/-- A command line that is well formed, with settings that are usable, ends as its action reports
it. -/
theorem Ending.ofArguments_eq {vars : String → Option String} {files : Files} {web : Web}
    {words : List String} {i : Invocation} {settings : Settings}
    (hwords : Invocation.ofArguments vars words = .ok i)
    (hsettings : settingsOf files i = .ok settings) :
    let read := readRecipe files web settings i
    let r := match i.action with
      | .order json layers => reportOrder read json layers
      | .validate => reportValidation i.recipe read
    Ending.ofArguments vars files web words = ⟨r.code, r.out, r.err, r.requests⟩ := by
  unfold Ending.ofArguments execute
  rw [hwords]
  dsimp only
  rw [hsettings]

end StartOrder.Command
