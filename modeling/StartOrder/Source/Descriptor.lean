import StartOrder.Json.Reader

/-!
# Recipe descriptors

A descriptor says where a recipe comes from, inline or from a location, and how it is declared. It
travels as an object of up to three fields: what is absent is not written, and may be null or
missing where it is read. Reading also takes the array of the three parts in order, as readers of
records do. Fields with other names are passed over; one of the three names given twice is an error.
-/

namespace StartOrder

/-- Where a recipe comes from and how it is declared. -/
structure Descriptor where
  content : Option String := none
  location : Option String := none
  contentType : String
  deriving DecidableEq, Repr

namespace Descriptor

/-- The names of the parts, in the order in which they are written. -/
def fieldNames : List String := ["content", "location", "contentType"]

/-- A descriptor as an object. -/
def toJson (d : Descriptor) : Json :=
  .ofFields (
    (d.content.toList.map fun s => ("content", Json.text s)) ++
    (d.location.toList.map fun s => ("location", Json.text s)) ++
    [("contentType", Json.text d.contentType)])

/-- A part that may be absent. -/
def optionalPart? : Json → Option (Option String)
  | .null => some none
  | .string (some s) => some (some s)
  | _ => none

/-- A part that must be there. -/
def requiredPart? : Json → Option String
  | .string (some s) => some s
  | _ => none

/-- The values of the fields with a name. -/
def valuesOf (name : String) (fields : List (Option String × Json)) : List Json :=
  (fields.filter (·.1 == some name)).map (·.2)

/-- The text of a field that may be absent, but not given twice. -/
def optionalField? (name : String) (fields : List (Option String × Json)) :
    Option (Option String) :=
  match valuesOf name fields with
  | [] => some none
  | [v] => optionalPart? v
  | _ => none

/-- The text of a field that must be given once. -/
def requiredField? (name : String) (fields : List (Option String × Json)) : Option String :=
  match valuesOf name fields with
  | [v] => requiredPart? v
  | _ => none

/-- The descriptor that a value holds. Fields with other names are passed over, but each name must
be a text. -/
def ofJson? : Json → Option Descriptor
  | .object fields =>
    if fields.all fun e => e.1.isSome then do
      return {
        content := ← optionalField? "content" fields
        location := ← optionalField? "location" fields
        contentType := ← requiredField? "contentType" fields }
    else none
  | .array [content, location, contentType] => do
    return {
      content := ← optionalPart? content
      location := ← optionalPart? location
      contentType := ← requiredPart? contentType }
  | _ => none

/-- A descriptor as text. -/
def text (d : Descriptor) : String := d.toJson.compact

/-- The descriptor that a text holds. -/
def ofText? (text : String) : Option Descriptor := (Json.ofText? text).bind ofJson?

end Descriptor

end StartOrder
