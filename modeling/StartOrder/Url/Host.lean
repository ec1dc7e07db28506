import StartOrder.Url.Problem
import StartOrder.Url.Percent
import StartOrder.Url.Domain

/-!
# Hosts

The host of an address is a domain, an address of the internet protocol in either version, or, under
a scheme that says nothing about hosts, a text. What looks like a number in its last part is read as
an address of version four, in any of the many ways in which these are written, and is an error if
it is none.
-/

namespace StartOrder.Url

/-- A host. -/
inductive Host where
  | domain (name : String)
  | ipv4 (address : Nat)
  | ipv6 (pieces : List Nat)
  /-- A host of a scheme without rules for hosts. It may be empty. -/
  | unchecked (text : String)
  deriving DecidableEq, Repr

/-! ## Version 4 -/

/-- A number of an address: decimal, octal behind a zero, hexadecimal behind `0x`. -/
def ipv4Number? (cs : List Char) : Option Nat :=
  match cs with
  | [] => none
  | '0' :: 'x' :: rest | '0' :: 'X' :: rest =>
    if rest.isEmpty then some 0 else Number.ofDigits? 16 rest
  | '0' :: rest => if rest.isEmpty then some 0 else Number.ofDigits? 8 rest
  | _ => Number.ofDigits? 10 cs

/-- The parts of a text between its dots, without an empty one at the end. -/
def dottedParts (cs : List Char) : List (List Char) :=
  let parts := cs.splitOn '.'
  if parts.getLast? = some [] then parts.dropLast else parts

/-- Whether a host ends in a number, so that it must be an address. -/
def endsInNumber (cs : List Char) : Bool :=
  match (dottedParts cs).getLast? with
  | some last => (!last.isEmpty && last.all Char.isDigit) || (ipv4Number? last).isSome
  | none => false

/-- Read an address of one to four numbers, of which the last fills up what the others leave. -/
def ipv4? (cs : List Char) : Option Nat :=
  let parts := dottedParts cs
  if 4 < parts.length then none
  else (parts.mapM ipv4Number?).bind fun numbers =>
    let leading := numbers.dropLast
    numbers.getLast?.bind fun last =>
      if leading.all (· < 256) && last < Nat.pow 256 (4 - leading.length) then
        some (leading.foldl (fun (acc, i) n => (acc + n * Nat.pow 256 i, i - 1)) (last, 3)).1
      else none

/-- An address as four decimal numbers. -/
def ipv4Text (n : Nat) : String :=
  ".".intercalate ([n / 0x1000000, n / 0x10000 % 256, n / 256 % 256, n % 256].map toString)

/-! ## Version 6 -/

/-- The pieces of an address before and behind two colons, last first; these stand for one zero
piece or more. -/
structure Pieces where
  before : List Nat := []
  after : Option (List Nat) := none

namespace Pieces

/-- The number of pieces read; two colons count as one. -/
def count (p : Pieces) : Nat := p.before.length + p.after.elim 0 (·.length + 1)

/-- Add a piece at the end. -/
def push (p : Pieces) (n : Nat) : Pieces :=
  match p.after with
  | none => { p with before := n :: p.before }
  | some after => { p with after := some (n :: after) }

/-- All eight pieces, if there are as many. -/
def all? (p : Pieces) : Option (List Nat) :=
  match p.after with
  | none => if p.before.length = 8 then some p.before.reverse else none
  | some after =>
    let zeros := List.replicate (8 - p.before.length - after.length) 0
    some (p.before.reverse ++ zeros ++ after.reverse)

end Pieces

/-- A decimal number below 256 without needless zeros. -/
def octet? (cs : List Char) : Option Nat :=
  if cs.head? = some '0' && cs.length ≠ 1 then none
  else (Number.ofDigits? 10 cs).filter (· < 256)

/-- The last two pieces, written as an address of version 4. -/
def ipv4Pieces? (cs : List Char) : Option (Nat × Nat) :=
  match (cs.splitOn '.').mapM octet? with
  | some [a, b, c, d] => some (a * 256 + b, c * 256 + d)
  | _ => none

/-- The digits of a piece: up to four of them at the front. -/
def pieceDigits (cs : List Char) : List Char :=
  (cs.takeWhile fun c => (Number.digitValue? 16 c).isSome).take 4

/-- Read the pieces of an address behind those that were read. -/
def readPieces (p : Pieces) (cs : List Char) : Option Pieces :=
  match cs with
  | [] => some p
  | ':' :: rest =>
    if p.count = 8 || p.after.isSome then none
    else readPieces { p with after := some [] } rest
  | c :: rest =>
    let digits := pieceDigits (c :: rest)
    let behind := (c :: rest).drop digits.length
    if behind.head? = some '.' then
      if digits.isEmpty || 6 < p.count then none
      else (ipv4Pieces? (c :: rest)).map fun (a, b) => (p.push a).push b
    else if p.count = 8 then none
    else (Number.ofDigits? 16 digits).bind fun n =>
      if behind.isEmpty then some (p.push n)
      else if behind.head? = some ':' && !behind.tail.isEmpty then
        readPieces (p.push n) behind.tail
      else none
termination_by cs.length
decreasing_by
  · exact Nat.lt_succ_self _
  · rw [List.length_tail, List.length_drop, List.length_cons]
    omega

/-- Read an address of eight pieces, some of which may be left out. -/
def ipv6? (cs : List Char) : Option (List Nat) :=
  match cs with
  | ':' :: ':' :: rest => (readPieces { after := some [] } rest).bind Pieces.all?
  | ':' :: _ => none
  | _ => (readPieces {} cs).bind Pieces.all?

/-- The zeros at the front of some pieces. -/
def zerosAt (pieces : List Nat) (start : Nat) : Nat :=
  ((pieces.drop start).takeWhile (· == 0)).length

/-- The start and the length of the first of the longest runs of two or more zeros. -/
def longestZeros (pieces : List Nat) : Option (Nat × Nat) :=
  ((List.range pieces.length).foldl (fun best start =>
    let n := zerosAt pieces start
    if best.2 < n then (start, n) else best) (0, 1) |> some).filter (1 < ·.2)

/-- Pieces in hexadecimal with colons between them. -/
def piecesText (pieces : List Nat) : String :=
  ":".intercalate (pieces.map fun n => String.ofList (Nat.toDigits 16 n))

/-- An address without its longest run of zeros. -/
def ipv6Text (pieces : List Nat) : String :=
  match longestZeros pieces with
  | none => piecesText pieces
  | some (start, n) =>
    piecesText (pieces.take start) ++ "::" ++ piecesText (pieces.drop (start + n))

/-! ## Hosts -/

namespace Host

/-- The characters that no host may contain. -/
def isForbidden (c : Char) : Bool :=
  c.toNat = 0 || c = '\t' || c = '\n' || c = '\r' || c = ' ' || c = '#' || c = '/' || c = ':' ||
    c = '<' || c = '>' || c = '?' || c = '@' || c = '[' || c = '\\' || c = ']' || c = '^' || c = '|'

/-- An address of version 6 in its brackets. -/
def ofBracketed (rest : List Char) : Except Problem Host :=
  if rest.getLast? = some ']' then
    match ipv6? rest.dropLast with
    | some pieces => .ok (.ipv6 pieces)
    | none => .error .badIpv6
  else .error .badIpv6

/-- A domain, or an address of version 4 if it ends in a number. -/
def ofDomain (name : String) : Except Problem Host :=
  if name.isEmpty then .error .emptyHost
  else if endsInNumber name.toList then
    match ipv4? name.toList with
    | some n => .ok (.ipv4 n)
    | none => .error .badIpv4
  else .ok (.domain name)

/-- Read a host of a scheme with rules for hosts. -/
def ofText (cs : List Char) : Except Problem Host :=
  match cs with
  | '[' :: rest => ofBracketed rest
  | _ => match (decodeUtf8? (percentDecode cs)).bind Domain.toAscii? with
    | some name => ofDomain name
    | none => .error .badDomain

/-- Read a host of a scheme without rules for hosts. -/
def ofUnchecked (cs : List Char) : Except Problem Host :=
  match cs with
  | '[' :: rest => ofBracketed rest
  | _ =>
    if cs.any isForbidden then .error .badHostCharacter
    else .ok (.unchecked (String.ofList (percentEncode isControl cs)))

/-- A host as text. -/
def text : Host → String
  | .domain name => name
  | .ipv4 n => ipv4Text n
  | .ipv6 pieces => "[" ++ ipv6Text pieces ++ "]"
  | .unchecked text => text

/-- Whether a host has no text. -/
def isEmpty (h : Host) : Bool := h == .unchecked ""

end Host

end StartOrder.Url
