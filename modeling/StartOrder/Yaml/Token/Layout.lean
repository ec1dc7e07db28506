import StartOrder.Yaml.Unreadable
import StartOrder.Yaml.Token

/-!
# The layout of a text

What indentation and flow brackets say about the tokens read so far: which block collections are
open, and where a key may have begun whose colon is still to come.

That a key has begun is only known at its colon, and so is that a mapping has. Until then, the place
is kept as a `PendingKey`, one for each open bracket, and the tokens for the key and the mapping are
inserted there afterwards (`Layout.insertAt`). A pending key is given up at the end of its line, or
when it gets too long, which is an error where there must be a key (`PendingKey.expire`).
-/

namespace StartOrder.Yaml

/-- A place where a key may have begun. It must turn out to be one if it is `required`. -/
structure PendingKey where
  /-- The number of tokens before it. -/
  number : Nat
  mark : Mark
  required : Bool

/-- The tokens read so far and what the layout of the text says about them. -/
structure Layout where
  /-- The tokens, last first, and their number. -/
  reversed : List Token := []
  count : Nat := 0
  /-- Whether a key may begin at the next token. -/
  keyAllowed : Bool := true
  /-- The columns of the open block collections, innermost first. -/
  indents : List Nat := []
  /-- The pending key of the surrounding block, if there is one. -/
  pending : Option PendingKey := none
  /-- The pending keys outside each open bracket, innermost first. -/
  outer : List (Option PendingKey) := []

namespace Layout

/-- Whether the next token stands within brackets. -/
def flow (s : Layout) : Bool := !s.outer.isEmpty

/-- Append a token. -/
def push (s : Layout) (kind : TokenKind) (start stop : Mark) : Layout :=
  { s with reversed := ⟨kind, start, stop⟩ :: s.reversed, count := s.count + 1 }

/-- Insert a token before those from a number on. -/
def insertAt (s : Layout) (number : Nat) (kind : TokenKind) (mark : Mark) : Layout :=
  let n := s.count - number
  { s with
    reversed := s.reversed.take n ++ ⟨kind, mark, mark⟩ :: s.reversed.drop n
    count := s.count + 1 }

/-! ## Pending keys -/

/-- Give up the pending key; one that is required is missing its colon. -/
def dropPending (s : Layout) : Except Unreadable Layout :=
  match s.pending with
  | some key =>
    if key.required then .error (.missingColon key.mark) else .ok { s with pending := none }
  | none => .ok s

/-- Note that a key may begin at a place, where one is allowed. It must if the place has the column
of the block around it. -/
def savePending (s : Layout) (mark : Mark) : Except Unreadable Layout :=
  if s.keyAllowed then
    let required := !s.flow && s.indents.head? = some mark.column
    s.dropPending.map fun s => { s with pending := some ⟨s.count, mark, required⟩ }
  else .ok s

/-- A pending key as it is at a later place: a key is on one line and at most 1024 octets long. -/
def PendingKey.expire (key : PendingKey) (mark : Mark) : Except Unreadable (Option PendingKey) :=
  if key.mark.line < mark.line || key.mark.index + 1024 < mark.index then
    if key.required then .error (.missingColon key.mark) else .ok none
  else .ok (some key)

/-- Outdate one possible pending key. -/
def expireOne (mark : Mark) : Option PendingKey → Except Unreadable (Option PendingKey)
  | some key => PendingKey.expire key mark
  | none => .ok none

/-- Give up the pending keys that can no longer be keys. -/
def expire (s : Layout) (mark : Mark) : Except Unreadable Layout :=
  match s.outer.reverse.mapM (expireOne mark), expireOne mark s.pending with
  | .error e, _ => .error e
  | .ok _, .error e => .error e
  | .ok outer, .ok pending => .ok { s with outer := outer.reverse, pending }

/-! ## Indentation -/

/-- Open a block collection at a column, if that is further right than the innermost open one. Its
token goes before those from a number on, or behind all. Within brackets nothing is opened. -/
def indentTo (s : Layout) (column : Nat) (kind : TokenKind) (mark : Mark)
    (number : Option Nat := none) : Layout :=
  let deeper : Bool := match s.indents with
    | [] => true
    | n :: _ => n < column
  if s.flow || !deeper then s
  else
    let s := { s with indents := column :: s.indents }
    match number with
    | some n => s.insertAt n kind mark
    | none => s.push kind mark mark

/-- The columns that remain open at a column, and the number of those that do not. -/
def closeBeyond (column : Option Nat) : List Nat → List Nat × Nat
  | [] => ([], 0)
  | n :: rest =>
    let closed : Bool := match column with
      | some c => c < n
      | none => true
    if closed then
      let (left, k) := closeBeyond column rest
      (left, k + 1)
    else (n :: rest, 0)

/-- Close the block collections further right than a column, or all of them. -/
def dedentTo (s : Layout) (column : Option Nat) (mark : Mark) : Layout :=
  if s.flow then s
  else
    let (indents, closed) := closeBeyond column s.indents
    { s with
      indents
      reversed := List.replicate closed ⟨.blockEnd, mark, mark⟩ ++ s.reversed
      count := s.count + closed }

/-- Enter a bracket. -/
def openBracket (s : Layout) : Layout :=
  { s with outer := s.pending :: s.outer, pending := none, keyAllowed := true }

/-- Leave a bracket. -/
def closeBracket (s : Layout) : Layout :=
  match s.outer with
  | pending :: outer => { s with outer, pending, keyAllowed := false }
  | [] => { s with keyAllowed := false }

end Layout

end StartOrder.Yaml
