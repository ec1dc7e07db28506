import StartOrder.Text.Blank
import StartOrder.Number.Word

/-!
# Spans of time

Spans as settings give them: `500ms`, `30s`, `5m`, `1h`. A number alone counts seconds. A span is a
number of milliseconds that fits into 64 bits, and reading one fails where it would not.
-/

namespace StartOrder

/-- A unit of time. -/
inductive TimeUnit where
  | milliseconds
  | seconds
  | minutes
  | hours
  deriving DecidableEq, Repr

namespace TimeUnit

/-- The suffix of a number of units. -/
def suffix : TimeUnit → List Char
  | .milliseconds => ['m', 's']
  | .seconds => ['s']
  | .minutes => ['m']
  | .hours => ['h']

/-- The number of milliseconds in a unit. -/
def millis : TimeUnit → UInt64
  | .milliseconds => 1
  | .seconds => 1000
  | .minutes => 60000
  | .hours => 3600000

/-- The units in the order in which their suffixes are looked for. The suffix `ms` ends in that of
seconds, so it comes first. -/
def all : List TimeUnit := [.milliseconds, .hours, .minutes, .seconds]

end TimeUnit

/-- A span of time in milliseconds, of at most 64 bits. -/
structure Timespan where
  millis : UInt64
  deriving DecidableEq, Repr

namespace Timespan

/-- A text without the suffix at its end. -/
def stripSuffix? (suffix cs : List Char) : Option (List Char) :=
  if suffix.isSuffixOf cs then some (cs.take (cs.length - suffix.length)) else none

/-- The number before a unit, and the unit: seconds where none is given. -/
def splitUnit (cs : List Char) : List Char × TimeUnit :=
  (TimeUnit.all.findSome? fun u => (stripSuffix? u.suffix cs).map (·, u)).getD (cs, .seconds)

/-- A number of units, if it is not too large to be counted in milliseconds. -/
def ofUnits? (n : UInt64) (u : TimeUnit) : Option Timespan := (Number.Word.mul? n u.millis).map mk

/-- Read a span of time: digits and a unit, with blanks around them. -/
def ofText? (text : String) : Option Timespan :=
  let (amount, unit) := splitUnit (Text.trimChars text.toList)
  -- a word may be spelled with a sign, a span may not
  if amount.isEmpty || !amount.all Char.isDigit then none
  else (Number.Word.spelled? amount).bind (ofUnits? · unit)

/-- Whether a span has no length. -/
def isZero (t : Timespan) : Bool := t.millis == 0

end Timespan

end StartOrder
