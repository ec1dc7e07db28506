import StartOrder.Text.Blank

/-!
# Help

The texts that explain the command line. They are set on lines of at most a hundred columns, with
the text of each option below its name. `wrap` breaks a text between words, and keeps the spaces
behind a word with it unless the line ends there; a value that contains a line break begins a new
line there.
-/

namespace StartOrder.Command

/-- The variable that stands in for an option, with its value. -/
def variableText (vars : String → Option String) (name : String) : String :=
  s!"[env: {name}=" ++ (vars name).getD "" ++ "]"

/-- The words of a line, each with the spaces behind it. Spaces at the front are a word. -/
def wordsOf (line : List Char) : List (List Char) := line.splitBy fun a b => a ≠ ' ' || b = ' '

/-- A line without the blanks at its end. -/
def trimEnd (line : List Char) : List Char := (Text.trimFront line.reverse).reverse

/-- Put a word behind lines, last first: on the last of them unless it grows too long. Then the word
begins a line of its own, which is indented as is said. -/
def addWord (width : Nat) (indent : List Char) (lines : List (List Char)) (word : List Char) :
    List (List Char) :=
  match lines with
  | [] => [word]
  | line :: above =>
    if line.all Text.isBlank || line.length + (trimEnd word).length ≤ width then
      (line ++ word) :: above
    else (indent ++ word) :: trimEnd line :: above

/-- A line on several lines, which are indented like the first. Words are not broken. -/
def wrapLine (width : Nat) (line : List Char) : List (List Char) :=
  let indent := line.takeWhile (· = ' ')
  ((wordsOf line).foldl (addWord width indent) [[]]).reverse

/-- A text on lines of a width. -/
def wrap (width : Nat) (text : String) : List String :=
  ((text.toList.splitOn '\n').flatMap (wrapLine width)).map String.ofList

/-- The lines on an option: its forms, and below them what it does, in a hundred columns. -/
def optionLines (forms text : String) : List String :=
  ("  " ++ forms) :: (wrap 90 text).map ("          " ++ ·)

def settingsLines : List String :=
  optionLines "-s, --settings <SETTINGS>" "Loader settings file (YAML)"

def endpointLines (vars : String → Option String) : List String :=
  optionLines "    --api-endpoint <API_ENDPOINT>"
    ("Platform API endpoint; recipes on its host receive the token " ++
      variableText vars "CPLAN_API_ENDPOINT")

/-- The lines on the token. Its value is not shown. -/
def tokenLines : List String :=
  optionLines "    --token <TOKEN>"
    "Token of the caller, used for private recipes on the API host [env: CPLAN_TOKEN]"

/-- The lines on the options that are the last ones of every command. -/
def lastLines (vars : String → Option String) : List String :=
  optionLines "    --fetch-timeout <FETCH_TIMEOUT>"
    ("Recipe download timeout (e.g. \"30s\", \"500ms\") " ++
      variableText vars "CPLAN_FETCH_TIMEOUT") ++
  optionLines "-v, --verbose" "Enable debug logging" ++
  optionLines "-h, --help" "Print help"

def contentTypeLines : List String :=
  optionLines "    --content-type <CONTENT_TYPE>"
    "Declared content type of the recipe [default: application/x-yaml]"

def recipeLines : List String := ["Arguments:", "  <RECIPE>  Recipe file path or http(s) URL", ""]

/-- The help on all commands. -/
def overviewLines (vars : String → Option String) : List String := [
  "Compose Plan - Parse environment recipes and compute service start order",
  "",
  "Usage: cplan [OPTIONS] <COMMAND>",
  "",
  "Commands:",
  "  order     Print the order in which services start",
  "  validate  Parse and validate a recipe",
  "  help      Print this message or the help of the given subcommand(s)",
  "",
  "Options:"] ++ settingsLines ++ endpointLines vars ++ tokenLines ++ lastLines vars

/-- The help on the command that prints an order. -/
def orderLines (vars : String → Option String) : List String :=
  ["Print the order in which services start", "", "Usage: cplan order [OPTIONS] <RECIPE>", ""] ++
  recipeLines ++ ["Options:"] ++ contentTypeLines ++ settingsLines ++ endpointLines vars ++
  optionLines "    --json" "Output as JSON" ++
  optionLines "    --layers" "Group services that can start concurrently" ++
  tokenLines ++ lastLines vars

/-- The help on the command that validates a recipe. -/
def validateLines (vars : String → Option String) : List String :=
  ["Parse and validate a recipe", "", "Usage: cplan validate [OPTIONS] <RECIPE>", ""] ++
  recipeLines ++ ["Options:"] ++ contentTypeLines ++ settingsLines ++ endpointLines vars ++
  tokenLines ++ lastLines vars

/-- The help on help. -/
def helpLines : List String := [
  "Print this message or the help of the given subcommand(s)",
  "",
  "Usage: cplan help [COMMAND]...",
  "",
  "Arguments:",
  "  [COMMAND]...  Print help for the subcommand(s)"]

/-- The help on a command, or on all commands. -/
def helpText (vars : String → Option String) (command : Option String) : String :=
  let lines :=
    if command = some "order" then orderLines vars
    else if command = some "validate" then validateLines vars
    else if command = some "help" then helpLines
    else overviewLines vars
  "\n".intercalate lines ++ "\n"

end StartOrder.Command
