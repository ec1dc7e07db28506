import StartOrder.Failure

/-!
# Links

A service links to another by its name, and may give it an alias of its own: `db` or `db:database`.
The alias is the name under which the linked service is reached; an empty one is none.
-/

namespace StartOrder

/-- A link to another service. -/
structure Link where
  service : String
  aliasName : Option String := none
  deriving DecidableEq, Repr

namespace Link

/-- The parts of a text between its colons. -/
def colonParts (cs : List Char) : List (List Char) := cs.splitOn ':'

/-- Read an entry of a `links` list. There is at most one colon, and a name before it; an empty
alias counts as none. -/
def ofText (entry : String) : Except Failure Link :=
  match colonParts entry.toList with
  | [[]] | [[], _] => .error (.badLink entry)
  | [service] => .ok { service := String.ofList service }
  | [service, []] => .ok { service := String.ofList service }
  | [service, other] =>
    .ok { service := String.ofList service, aliasName := some (String.ofList other) }
  | _ => .error (.badLink entry)

/-- The name under which the linked service is reached. -/
def hostname (l : Link) : String := l.aliasName.getD l.service

/-- A link as an entry of a `links` list. -/
def text (l : Link) : String :=
  match l.aliasName with
  | some other => l.service ++ ":" ++ other
  | none => l.service

end Link

end StartOrder
