import StartOrder.Yaml.Unreadable
import StartOrder.Number.Digits

/-!
# Quoted scalars

Texts between quotes, which may run on over several lines. A single break between two words counts
as a space, further breaks for themselves (`Gap.fold`). Between double quotes there are escapes,
among them one for a break that does not count at all.
-/

namespace StartOrder.Yaml

/-! ## Gaps between words -/

/-- What stands between two words of a scalar. -/
inductive Gap where
  /-- Blanks on one line, last first. -/
  | blanks (reversed : List Char)
  /-- A first break, unless it was escaped, and the breaks behind it, last first. -/
  | lines (first : Option Char) (moreReversed : List Char)

namespace Gap

/-- No character at all. -/
def none : Gap := .blanks []

/-- A gap with one more blank; blanks around breaks do not count. -/
def blank (g : Gap) (c : Char) : Gap :=
  match g with
  | .blanks cs => .blanks (c :: cs)
  | .lines first more => .lines first more

/-- A gap with one more break; blanks before a break do not count. -/
def lineBreak (g : Gap) (c : Char) : Gap :=
  match g with
  | .blanks _ => .lines (some c) []
  | .lines first more => .lines first (c :: more)

/-- Whether there is a break in a gap. -/
def hasBreak : Gap → Bool
  | .blanks _ => false
  | .lines .. => true

/-- Whether there is any character in a gap. -/
def isEmpty : Gap → Bool
  | .blanks cs => cs.isEmpty
  | .lines .. => false

/-- The characters that a gap counts for, last first. -/
def fold : Gap → List Char
  | .blanks cs => cs
  | .lines (some '\n') [] => [' ']
  | .lines (some '\n') more => more
  | .lines first more => more ++ first.toList

end Gap

/-! ## Quoted scalars -/

/-- The character that a one-letter escape stands for. -/
def simpleEscape? (c : Char) : Option Char :=
  match c with
  | '0' => some (Char.ofNat 0)
  | 'a' => some (Char.ofNat 7)
  | 'b' => some (Char.ofNat 8)
  | 't' | '\t' => some '\t'
  | 'n' => some '\n'
  | 'v' => some (Char.ofNat 11)
  | 'f' => some (Char.ofNat 12)
  | 'r' => some '\r'
  | 'e' => some (Char.ofNat 27)
  | ' ' => some ' '
  | '"' => some '"'
  | '/' => some '/'
  | '\\' => some '\\'
  | 'N' => some (Char.ofNat 0x85)
  | '_' => some (Char.ofNat 0xA0)
  | 'L' => some (Char.ofNat 0x2028)
  | 'P' => some (Char.ofNat 0x2029)
  | _ => none

/-- How many hexadecimal digits follow the letter of a numbered escape. -/
def escapeWidth? (c : Char) : Option Nat :=
  match c with
  | 'x' => some 2
  | 'u' => some 4
  | 'U' => some 8
  | _ => none

/-- The character that a list of hexadecimal digits numbers. -/
def numberedChar? (digits : List Char) : Option Char :=
  (Number.ofDigits? 16 digits).bind fun n =>
    if n.isValidChar then some (Char.ofNat n) else none

/-- An escape behind its backslash: the character it stands for and its length without the
backslash. -/
def escape? (cs : List Char) : Option (Char × Nat) :=
  match cs with
  | [] => none
  | c :: rest =>
    match simpleEscape? c with
    | some x => some (x, 1)
    | none => (escapeWidth? c).bind fun width =>
      let digits := rest.take width
      if digits.length < width then none
      else (numberedChar? digits).map fun x => (x, 1 + width)

/-- Read a quoted scalar from behind its opening quote: its text and what is behind the closing
quote. Between single quotes two quotes stand for one; between double quotes a backslash escapes. -/
def readQuoted (single : Bool) (start : Mark) (c : Cursor) (gap : Gap := .none)
    (reversed : List Char := []) : Except Unreadable (String × Cursor) :=
  if c.mark.column = 0 && startsWithDocumentMark c.rest then .error (.documentMarkInQuote start)
  else
    match _h : c.takeBreak? with
    | some (b, c') => readQuoted single start c' (gap.lineBreak b) reversed
    | none =>
      match _hc : c.rest with
      | [] => .error (.unclosedQuote start)
      | x :: rest =>
        if isSpaceOrTab x then readQuoted single start (c.advance 1) (gap.blank x) reversed
        else
          let before := gap.fold ++ reversed
          if single then
            if x = '\'' then
              if rest.head? = some '\'' then
                readQuoted single start (c.advance 2) .none ('\'' :: before)
              else .ok (String.ofList before.reverse, c.advance 1)
            else readQuoted single start (c.advance 1) .none (x :: before)
          else if x = '"' then .ok (String.ofList before.reverse, c.advance 1)
          else if x = '\\' then
            match _h' : (c.advance 1).takeBreak? with
            | some (_, c') => readQuoted single start c' (.lines none []) before
            | none =>
              match escape? rest with
              | some (y, n) => readQuoted single start (c.advance (1 + n)) .none (y :: before)
              | none => .error (.badEscape start)
          else readQuoted single start (c.advance 1) .none (x :: before)
termination_by c.rest.length
decreasing_by
  all_goals first
    | exact Cursor.length_takeBreak_lt _h
    | exact Nat.lt_of_lt_of_le (Cursor.length_takeBreak_lt _h') (Cursor.length_advance_le c 1)
    | simp [_hc]; try omega

@[grind →] theorem length_readQuoted_le {single : Bool} {start : Mark} {c : Cursor} {gap : Gap}
    {reversed : List Char} {s : String} {c' : Cursor}
    (h : readQuoted single start c gap reversed = .ok (s, c')) :
    c'.rest.length ≤ c.rest.length := by
  fun_induction readQuoted single start c gap reversed <;>
    grind

end StartOrder.Yaml
