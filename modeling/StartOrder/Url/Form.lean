import StartOrder.Url.Percent

/-!
# Queries of names and values

Queries whose parts are pairs `name=value` with `&` between them, as forms send them: a space is a
plus sign, and all but a few bytes are percent-encoded. What is read of a pair is bytes, as it need
not be a text.
-/

namespace StartOrder.Url.Form

/-- The bytes that are written as their characters: letters and digits of ASCII and four signs. -/
def isPlain (b : UInt8) : Bool :=
  let n := b.toNat
  (0x30 ≤ n && n ≤ 0x39) || (0x41 ≤ n && n ≤ 0x5A) || (0x61 ≤ n && n ≤ 0x7A) ||
    n == 0x2A || n == 0x2D || n == 0x2E || n == 0x5F

/-- A byte as it is written; a space is written as a plus sign. -/
def encodeByte (b : UInt8) : List Char :=
  if isPlain b then [Char.ofNat b.toNat]
  else if b.toNat = 0x20 then ['+']
  else Url.encodeByte b

/-- A name or a value as it is written. -/
def encode (cs : List Char) : List Char :=
  (cs.flatMap String.utf8EncodeChar).flatMap encodeByte

/-- A query with one more pair at its end. -/
def append (query : List Char) (name value : List Char) : List Char :=
  let pair := encode name ++ '=' :: encode value
  if query.isEmpty then pair else query ++ '&' :: pair

/-- The bytes of a name or a value that was written. -/
def decode (cs : List Char) : List UInt8 :=
  percentDecode (cs.map fun c => if c = '+' then ' ' else c)

/-- The pair that a part of a query is. A part without a sign is a name. -/
def pair (part : List Char) : List UInt8 × List UInt8 :=
  (decode (part.takeWhile (· ≠ '=')), decode (part.dropWhile (· ≠ '=')).tail)

/-- The pairs of a query; empty parts are passed over. -/
def pairs (query : List Char) : List (List UInt8 × List UInt8) :=
  ((query.splitOn '&').filter (!·.isEmpty)).map pair

end StartOrder.Url.Form
