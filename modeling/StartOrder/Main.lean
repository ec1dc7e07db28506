import StartOrder.Command.Execution

/-!
# The command line

Reads the files that a command line names, and prints what comes of it. No server is asked for
anything: recipes on the web are out of reach.
-/

namespace StartOrder

/-- The number of an error of the system. Some calls give its negative. -/
def errorNumber (code : UInt32) : UInt32 := min code (0 - code)

/-- The problem that kept a file from being read. -/
def FileProblem.ofError (e : IO.Error) : FileProblem :=
  match e with
  | .noFileOrDirectory .. => .missing
  | .permissionDenied .. => .denied
  | .inappropriateType _ code _ =>
    if errorNumber code = 20 then .notDirectory else .isDirectory
  | .invalidArgument _ code _ =>
    if errorNumber code = 36 then .nameTooLong else .other (toString e)
  | _ => .other (toString e)

/-- What is read under a path. -/
def readPath (path : String) : IO (Except FileProblem String) := do
  try
    let bytes ← IO.FS.readBinFile path
    return match String.fromUTF8? bytes with
      | some text => .ok text
      | none => .error .notText
  catch e => return .error (.ofError e)

/-- What is read under some paths. -/
def readPaths (paths : List String) : IO Files := do
  let read ← paths.mapM fun path => return (path, ← readPath path)
  return fun path => (read.lookup path).getD (.error .missing)

/-- The variables that stand in for options. -/
def variableNames : List String := ["CPLAN_API_ENDPOINT", "CPLAN_TOKEN", "CPLAN_FETCH_TIMEOUT"]

/-- The values of the variables that stand in for options. -/
def readVariables : IO (String → Option String) := do
  let read ← variableNames.mapM fun name => return (name, ← IO.getEnv name)
  return fun name => (read.lookup name).join

/-- The paths of the files that an invocation names. -/
def Command.Invocation.paths (i : Invocation) : List String :=
  i.settings.toList ++ if isRemote i.recipe then [] else [i.recipe]

/-- Run a command line. -/
def runCommandLine (words : List String) : IO UInt32 := do
  let vars ← readVariables
  let paths := (Command.Invocation.ofArguments vars words).toOption.elim [] (·.paths)
  let ending := Command.Ending.ofArguments vars (← readPaths paths) (fun _ => .unreachable) words
  IO.print ending.out
  IO.eprint ending.err
  return ending.code.toUInt32

end StartOrder

def main (words : List String) : IO UInt32 := StartOrder.runCommandLine words
