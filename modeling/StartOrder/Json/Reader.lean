import StartOrder.Json.Value
import StartOrder.Json.Token

/-!
# Reading JSON

A value is built token by token, on a stack of the arrays and objects that are open. Each frame of
the stack knows what may come next in it, so that a comma too many or a key without a colon is found
where it stands. The fields of an object are kept in their order, repeated ones included: what
becomes of those is up to the reader of the value.
-/

namespace StartOrder

/-- What comes next in an array. -/
inductive ItemSlot where
  /-- An item or the end. -/
  | first
  | item
  /-- A comma or the end. -/
  | comma
  deriving DecidableEq

/-- What comes next in an object. -/
inductive FieldSlot where
  /-- A key or the end. -/
  | first
  | key
  | colon (key : Option String)
  | value (key : Option String)
  /-- A comma or the end. -/
  | comma
  deriving DecidableEq

/-- What is open: the text itself, an array or an object. Items and fields are kept last first. -/
inductive JsonFrame where
  | text (value : Option Json)
  | array (items : List Json) (slot : ItemSlot)
  | object (fields : List (Option String × Json)) (slot : FieldSlot)

namespace Json

/-- Put a complete value where one is expected. -/
def place (v : Json) : List JsonFrame → Option (List JsonFrame)
  | .text none :: rest => some (.text (some v) :: rest)
  | .array items .first :: rest => some (.array (v :: items) .comma :: rest)
  | .array items .item :: rest => some (.array (v :: items) .comma :: rest)
  | .object fields (.value key) :: rest => some (.object ((key, v) :: fields) .comma :: rest)
  | _ => none

/-- Whether a value is expected. -/
def expectsValue : List JsonFrame → Bool
  | .text none :: _ | .array _ .first :: _ | .array _ .item :: _ | .object _ (.value _) :: _ => true
  | _ => false

/-- Open an array or an object where a value is expected. -/
def openFrame (f : JsonFrame) (stack : List JsonFrame) : Option (List JsonFrame) :=
  if expectsValue stack then some (f :: stack) else none

/-- Take a string, which is a key or a value. -/
def takeString (s : Option String) : List JsonFrame → Option (List JsonFrame)
  | .object fields .first :: rest | .object fields .key :: rest =>
    some (.object fields (.colon s) :: rest)
  | stack => place (.string s) stack

/-- What a token adds to the stack. -/
def step (stack : List JsonFrame) : JsonToken → Option (List JsonFrame)
  | .openArray => openFrame (.array [] .first) stack
  | .openObject => openFrame (.object [] .first) stack
  | .closeArray => match stack with
    | .array items .first :: rest | .array items .comma :: rest => place (.array items.reverse) rest
    | _ => none
  | .closeObject => match stack with
    | .object fields .first :: rest | .object fields .comma :: rest =>
      place (.object fields.reverse) rest
    | _ => none
  | .comma => match stack with
    | .array items .comma :: rest => some (.array items .item :: rest)
    | .object fields .comma :: rest => some (.object fields .key :: rest)
    | _ => none
  | .colon => match stack with
    | .object fields (.colon key) :: rest => some (.object fields (.value key) :: rest)
    | _ => none
  | .null => place .null stack
  | .bool b => place (.bool b) stack
  | .number spelling => place (.number spelling) stack
  | .string s => takeString s stack

/-- The value that some tokens make. -/
def ofTokens? (tokens : List JsonToken) : Option Json :=
  match tokens.foldlM step [.text none] with
  | some [.text value] => value
  | _ => none

/-- The value that a text holds. -/
def ofText? (text : String) : Option Json := (JsonToken.ofChars? text.toList).bind ofTokens?

end Json

end StartOrder
