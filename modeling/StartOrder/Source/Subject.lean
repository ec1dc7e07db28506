import StartOrder.Text.Quoted

/-!
# Subjects

The caller on whose behalf something is done. A subject holds for everything that is done within its
scope, an inner scope hides an outer one, and there is none outside of all scopes. `Activity` has
just the two things that can be done about it, asking for the current subject and opening a scope,
and `Activity.observe` says what is found.

A subject is never shown with its token.
-/

namespace StartOrder

/-- A caller. -/
structure Subject where
  name : Option String := none
  token : Option String := none
  deriving DecidableEq, Repr

namespace Subject

/-- An optional text as it is shown. -/
def shownOption : Option String → String
  | some s => "Some(" ++ Text.quoted s ++ ")"
  | none => "None"

/-- A subject as it is shown; whether there is a token can be seen, but not which. -/
def shown (s : Subject) : String :=
  let token := s.token.map fun _ => "<redacted>"
  "Subject \x7b name: " ++ shownOption s.name ++ ", token: " ++ shownOption token ++ " \x7d"

end Subject

/-- The token of the current subject, if there is one of either. -/
def currentToken (current : Option Subject) : Option String := current.bind Subject.token

/-- Things done one after the other or within the scope of a subject. -/
inductive Activity where
  /-- Ask for the current subject. -/
  | ask
  | within (subject : Subject) (body : List Activity)
  deriving Inhabited

namespace Activity

mutual

/-- The subjects that an activity finds current where it asks for them. -/
def observe (current : Option Subject) : Activity → List (Option Subject)
  | .ask => [current]
  | .within subject body => observeAll (some subject) body

/-- The subjects that several activities find current. -/
def observeAll (current : Option Subject) : List Activity → List (Option Subject)
  | [] => []
  | a :: rest => observe current a ++ observeAll current rest

end

end Activity

end StartOrder
