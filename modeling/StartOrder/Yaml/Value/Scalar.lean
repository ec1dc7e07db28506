import StartOrder.Yaml.Token
import StartOrder.Yaml.Tag
import StartOrder.Yaml.Unreadable
import StartOrder.Yaml.Value

/-!
# What scalars stand for

A plain scalar is null, a boolean, an integer or a floating-point number if it is spelled like one,
and a text otherwise. A scalar in quotes is a text, unless a tag of the core schema says otherwise,
in which case it must be spelled like a scalar of that kind.

A number with a zero in front of its digits is a text, so that file modes and the like are left as
they are.
-/

namespace StartOrder.Yaml

open Number (Binary64 ofDigits?)

/-! ## Spellings -/

/-- Whether a text spells null. The empty text does so only where nothing stands at all. -/
def isNull (s : String) : Bool := s == "null" || s == "Null" || s == "NULL" || s == "~"

/-- The boolean that a text spells. -/
def bool? (s : String) : Option Bool :=
  if s == "true" || s == "True" || s == "TRUE" then some true
  else if s == "false" || s == "False" || s == "FALSE" then some false
  else none

/-- A sign at the front of a text, and what is behind it. -/
def splitSign (cs : List Char) : Option Char × List Char :=
  match cs with
  | '+' :: rest => (some '+', rest)
  | '-' :: rest => (some '-', rest)
  | _ => (none, cs)

/-- Whether a text consists of digits behind a zero: such a text is no number, though its digits
would make one. -/
def isZeroPadded (cs : List Char) : Bool :=
  match (splitSign cs).2 with
  | '0' :: d :: rest => (d :: rest).all Char.isDigit
  | _ => false

/-- The number that digits with a mark for their base spell: `0x1f`, `0o17` or `0b11`. -/
def marked? (cs : List Char) : Option Nat :=
  match cs with
  | '0' :: 'x' :: rest => ofDigits? 16 rest
  | '0' :: 'o' :: rest => ofDigits? 8 rest
  | '0' :: 'b' :: rest => ofDigits? 2 rest
  | _ => none

/-- The natural number that a text without a sign spells. -/
def magnitude? (cs : List Char) : Option Nat :=
  (marked? cs).or (if isZeroPadded cs then none else ofDigits? 10 cs)

/-- The natural number that a text spells, with a plus sign or without. -/
def unsigned? (s : String) : Option Nat :=
  match splitSign s.toList with
  | (some '-', _) => none
  | (_, cs) => magnitude? cs

/-- The integer that a text spells: whether it has a minus sign, and its size. -/
def integer? (s : String) : Option (Bool × Nat) :=
  let (sign, cs) := splitSign s.toList
  let negative := sign = some '-'
  ((magnitude? cs).filter fun n =>
    if negative then n ≤ Nat.pow 2 127 else n < Nat.pow 2 128).map (negative, ·)

/-- The floating-point number that a text spells. -/
def float? (s : String) : Option Binary64 :=
  let (sign, cs) := splitSign s.toList
  let named (a b c : String) : Bool :=
    let t := String.ofList cs
    t == a || t == b || t == c
  if named ".inf" ".Inf" ".INF" then some (.infinity (sign = some '-'))
  else if sign = none && named ".nan" ".NaN" ".NAN" then some .nan
  else if sign.isSome && (splitSign cs).1.isSome then none
  else (Binary64.ofText? s.toList).filter Binary64.isFinite

/-! ## Resolution -/

namespace Value

/-- An integer, where it fits into 64 bits. -/
def ofInteger (negative : Bool) (n : Nat) : Except Unreadable Value :=
  if negative then
    if n ≤ Nat.pow 2 63 then .ok (.negated n) else .error .integerOutOfRange
  else if n < UInt64.size then .ok (.natural n) else .error .integerOutOfRange

/-- What a plain scalar without a tag stands for. -/
def ofPlain (s : String) : Except Unreadable Value :=
  if s.isEmpty || isNull s then .ok .null
  else match bool? s with
    | some b => .ok (.bool b)
    | none => match integer? s with
      | some (negative, n) => ofInteger negative n
      | none => match if isZeroPadded s.toList then none else float? s with
        | some x => .ok (.float x)
        | none => .ok (.text s)

/-- What a scalar with a core tag stands for; it must be spelled as the tag says. -/
def ofCoreScalar (tag : CoreTag) (s : String) : Except Unreadable Value :=
  match tag with
  | .null => if isNull s then .ok .null else .error .badCoreScalar
  | .bool => match bool? s with
    | some b => .ok (.bool b)
    | none => .error .badCoreScalar
  | .int => match integer? s with
    | some (negative, n) => ofInteger negative n
    | none => .error .badCoreScalar
  | .float => match float? s with
    | some x => .ok (.float x)
    | none => .error .badCoreScalar

/-- What a scalar stands for when a tag of the author's own, if it has one, is left aside. -/
def ofScalar (tag : Option Tag) (style : ScalarStyle) (s : String) : Except Unreadable Value :=
  match tag with
  | some (.core kind) => ofCoreScalar kind s
  | some .other => .ok (.text s)
  | _ => if style = .plain then ofPlain s else .ok (.text s)

end Value

end StartOrder.Yaml
