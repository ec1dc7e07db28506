/-!
# JSON values

Values of the JSON format and their texts, without blanks (`Json.compact`) or with a line for each
item and field, indented by two columns a level (`Json.pretty`). The fields of an object keep their
order, and a number the way in which it is spelled.
-/

namespace StartOrder

/-- A JSON value. A string without text is one whose escapes number half of a surrogate pair. -/
inductive Json where
  | null
  | bool (b : Bool)
  /-- A number as it is spelled. -/
  | number (spelling : String)
  | string (text : Option String)
  | array (items : List Json)
  | object (fields : List (Option String × Json))
  deriving Inhabited

namespace Json

/-- A string with a text. -/
def text (s : String) : Json := .string (some s)

/-- A natural number. -/
def ofNat (n : Nat) : Json := .number (toString n)

/-- An array of strings. -/
def texts (l : List String) : Json := .array (l.map text)

/-- An object, by the names of its fields. -/
def ofFields (fields : List (String × Json)) : Json := .object (fields.map fun e => (some e.1, e.2))

/-! ## Texts -/

/-- A digit of a base of at most sixteen. -/
def hexDigit (n : Nat) : Char := Nat.digitChar (n % 16)

/-- A character as it stands between quotes. -/
def escapedChar (c : Char) : List Char :=
  if c = '"' then ['\\', '"']
  else if c = '\\' then ['\\', '\\']
  else if c = '\n' then ['\\', 'n']
  else if c = '\r' then ['\\', 'r']
  else if c = '\t' then ['\\', 't']
  else if c.toNat = 8 then ['\\', 'b']
  else if c.toNat = 12 then ['\\', 'f']
  else if c.toNat < 0x20 then
    ['\\', 'u', '0', '0', hexDigit (c.toNat / 16), hexDigit c.toNat]
  else [c]

/-- A text between quotes. -/
def escaped (s : String) : List Char := '"' :: s.toList.flatMap escapedChar ++ ['"']

/-- A string as text. One without a text is shown as half of a surrogate pair. -/
def stringText : Option String → List Char
  | some s => escaped s
  | none => ['"', '\\', 'u', 'd', '8', '0', '0', '"']

mutual

/-- A value without blanks. -/
def compactChars : Json → List Char
  | .null => ['n', 'u', 'l', 'l']
  | .bool true => ['t', 'r', 'u', 'e']
  | .bool false => ['f', 'a', 'l', 's', 'e']
  | .number spelling => spelling.toList
  | .string s => stringText s
  | .array items => '[' :: compactItems items ++ [']']
  | .object fields => '\x7b' :: compactFields fields ++ ['\x7d']

/-- The items of an array with commas between them. -/
def compactItems : List Json → List Char
  | [] => []
  | [v] => compactChars v
  | v :: rest => compactChars v ++ ',' :: compactItems rest

/-- The fields of an object with commas between them. -/
def compactFields : List (Option String × Json) → List Char
  | [] => []
  | [(key, v)] => stringText key ++ ':' :: compactChars v
  | (key, v) :: rest => stringText key ++ ':' :: compactChars v ++ ',' :: compactFields rest

end

/-- A value without blanks. -/
def compact (v : Json) : String := String.ofList v.compactChars

/-- A break and the indentation of a level. -/
def lineStart (level : Nat) : List Char := '\n' :: List.replicate (2 * level) ' '

mutual

/-- A value at a level of indentation. Empty arrays and objects take no lines of their own. -/
def prettyChars (level : Nat) : Json → List Char
  | .array [] => ['[', ']']
  | .array items => '[' :: prettyItems (level + 1) items ++ lineStart level ++ [']']
  | .object [] => ['\x7b', '\x7d']
  | .object fields => '\x7b' :: prettyFields (level + 1) fields ++ lineStart level ++ ['\x7d']
  | .null => ['n', 'u', 'l', 'l']
  | .bool true => ['t', 'r', 'u', 'e']
  | .bool false => ['f', 'a', 'l', 's', 'e']
  | .number spelling => spelling.toList
  | .string s => stringText s

/-- The lines of the items of an array. -/
def prettyItems (level : Nat) : List Json → List Char
  | [] => []
  | [v] => lineStart level ++ prettyChars level v
  | v :: rest => lineStart level ++ prettyChars level v ++ ',' :: prettyItems level rest

/-- The lines of the fields of an object. -/
def prettyFields (level : Nat) : List (Option String × Json) → List Char
  | [] => []
  | [(key, v)] => lineStart level ++ stringText key ++ ':' :: ' ' :: prettyChars level v
  | (key, v) :: rest =>
    lineStart level ++ stringText key ++ ':' :: ' ' :: prettyChars level v ++
      ',' :: prettyFields level rest

end

/-- A value with a line for each item and field. -/
def pretty (v : Json) : String := String.ofList (v.prettyChars 0)

end Json

end StartOrder
