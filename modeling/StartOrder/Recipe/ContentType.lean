import StartOrder.Failure
import StartOrder.Text.Blank

/-!
# Content types

The media types under which a recipe may be declared. Parameters, letter case and the blanks around
the type do not matter.

- `ContentType`: the formats of recipes.
- `ContentType.ofMediaType`: the format that a media type declares.
-/

namespace StartOrder

/-- A format of recipes. -/
inductive ContentType where
  | yaml
  deriving DecidableEq, Repr

namespace ContentType

/-- The media types of recipes. -/
def supported : List String := ["application/x-yaml", "text/yaml", "text/x-yaml"]

/-- The name of a format. -/
def text : ContentType → String
  | .yaml => "application/x-yaml"

/-- A media type without its parameters, in lower case. -/
def essence (mediaType : String) : String :=
  String.ofList ((Text.trimChars (mediaType.toList.takeWhile (· ≠ ';'))).map Char.toLower)

/-- The format that a media type declares. -/
def ofMediaType (mediaType : String) : Except Failure ContentType :=
  if supported.contains (essence mediaType) then .ok .yaml
  else .error (.contentType mediaType supported)

end ContentType

end StartOrder
