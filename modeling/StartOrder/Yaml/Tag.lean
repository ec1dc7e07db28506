/-!
# Tags

What the tag of a node says about the kind of the node: one of the scalars of the language itself,
or something of the author's own. A tag is a list of octets, which need not be a text; those behind
a zero octet do not count.
-/

namespace StartOrder.Yaml

/-- The kinds of scalars that have a tag in the language itself. -/
inductive CoreTag where
  | null
  | bool
  | int
  | float
  deriving DecidableEq, Repr

/-- The core tag that a text is, if it is one. -/
def CoreTag.ofText? (tag : String) : Option CoreTag :=
  if tag = "tag:yaml.org,2002:null" then some .null
  else if tag = "tag:yaml.org,2002:bool" then some .bool
  else if tag = "tag:yaml.org,2002:int" then some .int
  else if tag = "tag:yaml.org,2002:float" then some .float
  else none

/-- What a tag says about its node. -/
inductive Tag where
  /-- The node is of a scalar kind of the language. -/
  | core (kind : CoreTag)
  /-- The node is of a kind of the author's own, which has a name. -/
  | own (name : String)
  /-- The tag begins like one of the author's own, but its name is no text. It says nothing. -/
  | unnamed
  /-- Any other tag. It says that a scalar is a text. -/
  | other
  deriving DecidableEq, Repr

namespace Tag

/-- The octets of a text. -/
def octetsOf (text : String) : List UInt8 := text.toUTF8.toList

/-- The octets that count. -/
def counting (octets : List UInt8) : List UInt8 := octets.takeWhile (· ≠ 0)

/-- A text without an exclamation mark at its front, unless there is nothing else. -/
def dropMark (text : String) : String :=
  match text.toList with
  | '!' :: c :: rest => String.ofList (c :: rest)
  | _ => text

/-- What the tag with some octets says. A tag that begins with an exclamation mark is one of the
author's own. Its name is what follows, where a second mark at the front makes no difference. -/
def ofOctets (octets : List UInt8) : Tag :=
  let octets := counting octets
  match octets.head? == some 33, String.fromUTF8? ⟨octets.toArray⟩ with
  | true, some text => .own (dropMark (dropMark text))
  | true, none => .unnamed
  | false, some text => (CoreTag.ofText? text).elim .other .core
  | false, none => .other

/-- The name of a kind of the author's own. -/
def ownName? : Tag → Option String
  | .own name => some name
  | _ => none

end Tag

end StartOrder.Yaml
