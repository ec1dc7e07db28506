import StartOrder.Recipe.Reading
import StartOrder.Source.Settings

/-!
# Files

Recipes and settings that are read from files. All that a file system does here is to give a text
for a path, or to say why there is none (`Files`). `Environment.ofFileWith` is written over any
monad in which that happens, so that it can be run on the files of the machine as well as on the
ones of `Files.ofEntries`, a directory without other directories in it, for which the reasons are
spelled out.
-/

namespace StartOrder

/-- What is read under each path. -/
abbrev Files := (path : String) → Except FileProblem String

namespace Files

/-- Whether a step of a path leads to a directory around the place that it starts from, or leaves it
where it is. -/
def isDots (step : String) : Bool := step == "" || step == "." || step == ".."

/-- What is read behind some steps through other directories. All that is known of those is that
they are there. -/
def outside (steps : List String) : Except FileProblem String :=
  match steps.filter (!isDots ·) with
  | [] => .error .isDirectory
  | name :: _ => if 255 < name.utf8ByteSize then .error .nameTooLong else .error .missing

/-- What is read behind some steps from a directory on, which has only files in it. -/
def inside (entries : NameMap (List UInt8)) : List String → Except FileProblem String
  | [] => .error .isDirectory
  | name :: rest =>
    if name = "" || name = "." then inside entries rest
    else if name = ".." then outside rest
    else if 255 < name.utf8ByteSize then .error .nameTooLong
    else
      let found : Option (List UInt8) := entries.find? name
      match found with
      | none => .error .missing
      | some bytes =>
        if !rest.isEmpty then .error .notDirectory
        else match Url.decodeUtf8? bytes with
          | some text => .ok text
          | none => .error .notText

/-- The files of a directory, by name. -/
def ofEntries (entries : NameMap (List UInt8)) : Files := fun path =>
  if path.toList.any (·.toNat = 0) then .error .zeroInName
  else if path.isEmpty then .error .missing
  else if 4096 ≤ path.utf8ByteSize then .error .nameTooLong
  else match (path.toList.splitOn '/').map String.ofList with
    | "" :: steps => outside steps
    | steps => inside entries steps

end Files

/-- The recipe in a file, whatever it takes to read files. The media type is checked before the file
is read. -/
def Environment.ofFileWith {m : Type → Type} [Monad m]
    (readFile : (path : String) → m (Except FileProblem String)) (path mediaType : String) :
    m (Except Failure Environment) :=
  match ContentType.ofMediaType mediaType with
  | .error e => pure (.error e)
  | .ok _ => do
    match ← readFile path with
    | .ok content => return Environment.ofRecipe content mediaType
    | .error problem => return .error (.settings (.recipeFile path problem))

/-- The recipe in a file. -/
def Environment.ofFile (files : Files) (path mediaType : String) : Except Failure Environment :=
  Environment.ofFileWith (m := Id) files path mediaType

/-- The settings in a file. -/
def Settings.ofFile (files : Files) (path : String) : Except Failure Settings :=
  match files path with
  | .ok content => Settings.ofYaml content
  | .error problem => .error (.settings (.settingsFile path problem))

end StartOrder
