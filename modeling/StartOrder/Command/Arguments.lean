/-!
# Arguments

The words of a command line. Options begin with a hyphen and may stand before or behind the name of
the command; those of the command itself stand behind it only. A letter may be followed by others in
the same word, or by its value, and a name by a sign of equality and its value.

A command line that is read is an `Invocation`: an action, a recipe, and the options. One that is
not read stops for a reason (`Stop`): it is malformed, or it asks for help. Variables stand in for
options that are not given, and no option is taken from anywhere else.
-/

namespace StartOrder.Command

/-- What is to be done with a recipe. -/
inductive Action where
  /-- Print the order in which services are started, as it is or in layers. -/
  | order (json layers : Bool)
  | validate
  deriving DecidableEq, Repr

/-- What a command line asks for. -/
structure Invocation where
  settings : Option String := none
  apiEndpoint : Option String := none
  token : Option String := none
  fetchTimeout : Option String := none
  verbose : Bool := false
  action : Action
  recipe : String
  contentType : String := "application/x-yaml"
  deriving DecidableEq, Repr

/-- Why a command line asks for nothing. -/
inductive Stop where
  /-- The words do not fit together. -/
  | usage
  /-- Help is asked for: on a command, or on all. -/
  | help (command : Option String)
  deriving DecidableEq, Repr

/-! ## Options -/

/-- An option: its name, its letter, and whether a value belongs to it. -/
structure OptionForm where
  name : String
  letter : Option Char := none
  takesValue : Bool
  deriving DecidableEq, Repr

/-- The options of all commands. -/
def commonOptions : List OptionForm := [
  { name := "settings", letter := some 's', takesValue := true },
  { name := "api-endpoint", takesValue := true },
  { name := "token", takesValue := true },
  { name := "fetch-timeout", takesValue := true },
  { name := "verbose", letter := some 'v', takesValue := false },
  { name := "help", letter := some 'h', takesValue := false }]

/-- The options of a command, if there is such a command. -/
def commandOptions? (command : String) : Option (List OptionForm) :=
  let contentType : OptionForm := { name := "content-type", takesValue := true }
  if command = "order" then
    some [contentType, { name := "json", takesValue := false },
      { name := "layers", takesValue := false }]
  else if command = "validate" then some [contentType]
  else none

/-- What a word of a command line says. -/
inductive Word where
  | operand
  /-- Options, each with its value if it takes one. -/
  | options (given : List (String × Option String))
  /-- Options of which the last lacks its value. -/
  | lacking (given : List (String × Option String)) (name : String)
  | unknown

/-- Read the letters of options behind a single hyphen. What follows the letter of an option with a
value is the value, with an equals sign before it or without. Nothing is read behind the letter that
asks for help. -/
def readLetters (forms : List OptionForm) : List Char → Word
  | [] => .options []
  | c :: rest => match forms.find? (·.letter == some c) with
    | none => .unknown
    | some form =>
      if form.takesValue then
        match rest with
        | [] => .lacking [] form.name
        | '=' :: value => .options [(form.name, some (String.ofList value))]
        | value => .options [(form.name, some (String.ofList value))]
      else if form.name = "help" then .options [(form.name, none)]
      else match readLetters forms rest with
        | .options given => .options ((form.name, none) :: given)
        | .lacking given name => .lacking ((form.name, none) :: given) name
        | word => word

/-- Read the name of an option behind two hyphens, with a value behind an equals sign. -/
def readName (forms : List OptionForm) (cs : List Char) : Word :=
  let name := String.ofList (cs.takeWhile (· ≠ '='))
  match forms.find? (·.name == name), cs.dropWhile (· ≠ '=') with
  | none, _ => .unknown
  | some form, [] => if form.takesValue then .lacking [] name else .options [(name, none)]
  | some form, _ :: value =>
    if form.takesValue then .options [(name, some (String.ofList value))] else .unknown

/-- Read a word. A hyphen alone is an operand. -/
def readWord (forms : List OptionForm) (word : String) : Word :=
  match word.toList with
  | '-' :: '-' :: name => readName forms name
  | '-' :: c :: rest => readLetters forms (c :: rest)
  | _ => .operand

/-! ## Command lines -/

/-- What is read so far: options in the order in which they stand, and an operand. -/
structure Given where
  options : List (String × Option String) := []
  operand : Option String := none

namespace Given

/-- Whether an option is given. -/
def has (g : Given) (name : String) : Bool := g.options.any (·.1 == name)

/-- The value of an option, if it is given. -/
def value? (g : Given) (name : String) : Option String := (g.options.lookup name).join

/-- Note an operand. There is room for one. -/
def noteOperand (g : Given) (word : String) : Except Stop Given :=
  if g.operand.isSome then .error .usage else .ok { g with operand := some word }

/-- Note options. None may be given twice, a file of settings has a name, and help stops the
reading. -/
def note (g : Given) (command : Option String) :
    List (String × Option String) → Except Stop Given
  | [] => .ok g
  | e :: rest =>
    if e.1 = "help" then .error (.help command)
    else if g.has e.1 || e == ("settings", some "") then .error .usage
    else note { g with options := g.options ++ [e] } command rest

end Given

/-- Whether a word begins like an option, so that it is no value. -/
def looksLikeOption (word : String) : Bool :=
  match word.toList with
  | '-' :: _ :: _ => true
  | _ => false

/-- Note options of which the last takes its value from the next word. -/
def Given.noteLacking (g : Given) (command : Option String) (given : List (String × Option String))
    (name value : String) : Except Stop Given :=
  if looksLikeOption value then .error .usage
  else g.note command (given ++ [(name, some value)])

/-- Read the words before the name of a command. Gives what is behind the name. -/
def readOuter (g : Given) : List String → Except Stop (Given × List String)
  | [] => .ok (g, [])
  | word :: rest =>
    match readWord commonOptions word with
    | .unknown => .error .usage
    | .operand => do return (← g.noteOperand word, rest)
    | .options given => do readOuter (← g.note none given) rest
    | .lacking given name => match rest with
      | [] => .error .usage
      | value :: rest => do readOuter (← g.noteLacking none given name value) rest

/-- Read the words behind the name of a command. All words behind two lone hyphens are operands. -/
def readInner (forms : List OptionForm) (command : String) (g : Given) :
    List String → Except Stop Given
  | [] => .ok g
  | word :: rest =>
    if word = "--" then rest.foldlM Given.noteOperand g
    else match readWord forms word with
      | .unknown => .error .usage
      | .operand => do readInner forms command (← g.noteOperand word) rest
      | .options given => do readInner forms command (← g.note (some command) given) rest
      | .lacking given name => match rest with
        | [] => .error .usage
        | value :: rest => do
          readInner forms command (← g.noteLacking (some command) given name value) rest

namespace Invocation

/-- Read what is asked of a command. The value of an option is the one behind the command, else the
one before it, else that of its variable. -/
def ofCommand (vars : String → Option String) (outer : Given) (command : String)
    (own : List OptionForm) (words : List String) : Except Stop Invocation := do
  let inner ← readInner (commonOptions ++ own) command {} words
  let some recipe := inner.operand | throw .usage
  let value (name : String) : Option String := (inner.value? name).or (outer.value? name)
  return {
    settings := value "settings"
    apiEndpoint := (value "api-endpoint").or (vars "CPLAN_API_ENDPOINT")
    token := (value "token").or (vars "CPLAN_TOKEN")
    fetchTimeout := (value "fetch-timeout").or (vars "CPLAN_FETCH_TIMEOUT")
    verbose := inner.has "verbose" || outer.has "verbose"
    action :=
      if command = "order" then .order (inner.has "json") (inner.has "layers") else .validate
    recipe
    contentType := (inner.value? "content-type").getD "application/x-yaml" }

/-- Read a command line. -/
def ofArguments (vars : String → Option String) (words : List String) :
    Except Stop Invocation := do
  let (outer, rest) ← readOuter {} words
  let some command := outer.operand | throw .usage
  match commandOptions? command with
  | some own => ofCommand vars outer command own rest
  | none =>
    if command = "help" then
      match rest with
      | [] => throw (.help none)
      | [subject] =>
        if (commandOptions? subject).isSome || subject = "help" then throw (.help (some subject))
        else throw .usage
      | _ => throw .usage
    else throw .usage

end Invocation

end StartOrder.Command
