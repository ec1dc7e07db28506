import StartOrder.Failure.Cause

/-!
# Failures

Everything that can go wrong between a recipe and its running services. A failure is told to the
user as a sentence (`Failure.message`), which is made from its cause and names what it is about, and
with a hint where there is one (`Failure.withSuggestion`). Several failures at once are a failure as
well, and are told line by line.

`Failure.isPermanent` tells those that a repetition cannot mend from those that may come from
outside. `Failure.code` and `Failure.help` are what a diagnostic report shows beside the sentence.
-/

namespace StartOrder

/-- What went wrong. -/
inductive Failure where
  | fetch (location : String) (problem : FetchProblem)
  | contentType (given : String) (supported : List String)
  | malformed (problem : RecipeProblem)
  /-- A recipe has neither a content nor a location. -/
  | noSource
  | badLink (entry : String)
  | noOrder (services : List String) (problem : OrderProblem)
  | settings (problem : SettingsProblem)
  | badName (problem : NameProblem)
  | io (text : String)
  | startFailed (service reason : String)
  | network (text : String)
  | cancelled (what : String)
  | several (failures : List Failure)
  deriving Inhabited

namespace Failure

/-- Names with commas between them. -/
def commaList (names : List String) : String := ", ".intercalate names

mutual

/-- The sentence that tells a failure. -/
def message : Failure → String
  | .fetch location problem =>
    s!"Recipe downloading failed. Recipe url {location}. Error: {problem.message}"
  | .contentType given supported =>
    s!"Provided environment recipe content type '{given}' is unsupported. " ++
      s!"Supported values are: {commaList supported}"
  | .malformed problem => s!"Parsing of environment configuration failed. {problem.message}"
  | .noSource => "Recipe has neither inline content nor a location"
  | .badLink entry => s!"Service link {entry} is invalid"
  | .noOrder services problem =>
    s!"Launch order of services [{commaList services}] can't be evaluated: {problem.message}"
  | .settings problem => s!"Configuration error: {problem.message}"
  | .badName problem => s!"Invalid recipe: {problem.message}"
  | .io text => s!"IO error: {text}"
  | .startFailed service reason => s!"Service '{service}' failed to start: {reason}"
  | .network text => s!"Network error: {text}"
  | .cancelled what => s!"Operation cancelled: {what}"
  | .several failures => "Multiple errors occurred:\n" ++ "\n".intercalate (lines failures)

/-- A line for each of several failures. -/
def lines : List Failure → List String
  | [] => []
  | f :: rest => ("  - " ++ message f) :: lines rest

end

mutual

/-- Whether the same attempt on the same input must fail again. Downloads and launches may succeed
another time. -/
def isPermanent : Failure → Bool
  | .fetch .. | .io _ | .startFailed .. | .network _ => false
  | .several failures => arePermanent failures
  | _ => true

/-- Whether all of several failures are permanent. -/
def arePermanent : List Failure → Bool
  | [] => true
  | f :: rest => isPermanent f && arePermanent rest

end

/-- A hint how to resolve a failure. -/
def suggestion : Failure → Option String
  | .fetch location _ =>
    some (s!"Verify that {location} is reachable. " ++
      "Private recipes on the API host need a token (--token or CPLAN_TOKEN).")
  | .contentType _ supported =>
    some s!"Pass one of the supported content types with --content-type: {commaList supported}"
  | .badLink entry =>
    some s!"Rewrite '{entry}' as 'service' or 'service:alias' (exactly one colon at most)."
  | .noOrder services _ =>
    some ("Services cannot depend on each other in a cycle " ++
      "or on services missing from the recipe. " ++
      s!"Review the depends_on and links fields for: {commaList services}")
  | .malformed _ | .badName _ => some "Validate your recipe with: cplan validate <recipe>"
  | .noSource => some "Provide either inline recipe content or a recipe location."
  | _ => none

/-- The sentence, and the hint if there is one. -/
def withSuggestion (f : Failure) : String :=
  match f.suggestion with
  | some hint => s!"{f.message}\n\nHint: {hint}"
  | none => f.message

/-- The code of a failure in a diagnostic report. -/
def code : Failure → Option String
  | .fetch .. => some "cplan::recipe::fetch"
  | .contentType .. => some "cplan::recipe::content_type"
  | .malformed _ => some "cplan::recipe::malformed"
  | .noSource => some "cplan::recipe::missing_source"
  | .badLink _ => some "cplan::link::invalid"
  | .noOrder .. => some "cplan::order::unresolvable"
  | .badName _ => some "cplan::recipe::validation"
  | .startFailed .. => some "cplan::launch::start_failed"
  | .network _ => some "cplan::launch::network"
  | _ => none

/-- The advice of a diagnostic report. -/
def help : Failure → Option String
  | .fetch .. => some "Check that the recipe URL is reachable and that you are allowed to read it"
  | .contentType .. => some "Compose recipes must be declared with a YAML content type"
  | .malformed _ => some "The recipe must be a YAML mapping with a 'services' section"
  | .badLink _ => some "Links must be written as 'service' or 'service:alias'"
  | .noOrder .. => some "Review the depends_on and links fields of the listed services"
  | .badName _ => some "Run \x60cplan validate\x60 for detailed validation errors"
  | _ => none

end Failure

end StartOrder
