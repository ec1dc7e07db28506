import StartOrder.Yaml.Scalar.Quoted

/-!
# Block scalars

Texts that consist of the lines indented beneath an indicator, kept line by line or folded. How far
they are indented is said by a digit behind the indicator or else by the first line with content; a
sign says what becomes of the breaks at the end.

Folding joins a line to the one before it by a space, unless either begins with a blank or there are
empty lines between them (`BlockLines.add`).
-/

namespace StartOrder.Yaml

/-- What becomes of the breaks at the end of a block scalar. -/
inductive Chomping where
  | strip
  | clip
  | keep
  deriving DecidableEq

/-- The indicators at the front of a block scalar. -/
structure BlockHeader where
  chomping : Chomping := .clip
  /-- How far the lines are indented beyond the parent node, if that is said. -/
  increment : Option Nat := none

/-- The chomping that a sign asks for. -/
def chomping? (c : Char) : Option Chomping :=
  if c = '+' then some .keep else if c = '-' then some .strip else none

/-- Read the sign and the digit behind `|` or `>`, in either order; the digit is not zero. -/
def readBlockHeader (start : Mark) (c : Cursor) : Except Unreadable (BlockHeader × Cursor) :=
  let digit? (x : Char) : Option Nat := if x.isDigit then some (x.toNat - '0'.toNat) else none
  match c.rest with
  | x :: rest =>
    match chomping? x, digit? x with
    | some chomping, _ => match rest.head?.bind digit? with
      | some 0 => .error (.badBlockHeader start)
      | some n => .ok (⟨chomping, some n⟩, c.advance 2)
      | none => .ok (⟨chomping, none⟩, c.advance 1)
    | none, some 0 => .error (.badBlockHeader start)
    | none, some n => match rest.head?.bind chomping? with
      | some chomping => .ok (⟨chomping, some n⟩, c.advance 2)
      | none => .ok (⟨.clip, some n⟩, c.advance 1)
    | none, none => .ok ({}, c)
  | [] => .ok ({}, c)

@[grind →] theorem length_readBlockHeader_le {start : Mark} {c c' : Cursor} {header : BlockHeader}
    (h : readBlockHeader start c = .ok (header, c')) : c'.rest.length ≤ c.rest.length := by
  unfold readBlockHeader at h
  grind

/-- Skip blanks and a comment up to the end of the line, which must be there, and the break. -/
def skipToNextLine (error : Unreadable) (c : Cursor) : Except Unreadable Cursor :=
  let c := c.skipWhile isSpaceOrTab
  let c := if c.rest.head? = some '#' then c.skipWhile (fun x => !isBreak x) else c
  match c.takeBreak? with
  | some (_, c') => .ok c'
  | none => if c.rest.isEmpty then .ok c else .error error

@[grind →] theorem length_skipToNextLine_le {error : Unreadable} {c c' : Cursor}
    (h : skipToNextLine error c = .ok c') : c'.rest.length ≤ c.rest.length := by
  unfold skipToNextLine at h
  grind

/-- Skip spaces as far as the indentation, if that is known, and empty lines. Gives the breaks, last
first, the widest indentation met, and what is behind. -/
def skipIndent (indent : Option Nat) (start : Mark) (c : Cursor) (widest : Nat := 0)
    (breaks : List Char := []) : Except Unreadable (List Char × Nat × Cursor) :=
  let widest := max widest c.mark.column
  let inIndent := match indent with
    | some n => c.mark.column < n
    | none => true
  match _h : c.takeBreak? with
  | some (b, c') => skipIndent indent start c' widest (b :: breaks)
  | none =>
    match _hc : c.rest with
    | [] => .ok (breaks, widest, c)
    | x :: _ =>
      if inIndent && x = ' ' then skipIndent indent start (c.advance 1) widest breaks
      else if inIndent && x = '\t' then .error (.tabInIndentation start)
      else .ok (breaks, widest, c)
termination_by c.rest.length
decreasing_by
  all_goals first
    | exact Cursor.length_takeBreak_lt _h
    | simp [_hc]

@[grind →] theorem length_skipIndent_le {indent : Option Nat} {start : Mark} {c c' : Cursor}
    {widest n : Nat} {breaks bs : List Char}
    (h : skipIndent indent start c widest breaks = .ok (bs, n, c')) :
    c'.rest.length ≤ c.rest.length := by
  fun_induction skipIndent indent start c widest breaks <;> grind

/-- What is kept of a block scalar between two of its lines. -/
structure BlockLines where
  /-- The text so far, last character first. -/
  reversed : List Char := []
  /-- The break of the line before, if there was one. -/
  lineBreak : List Char := []
  /-- The breaks of the empty lines behind it, last first. -/
  breaks : List Char := []
  /-- Whether the line before begins with a blank, so that its break is not folded. -/
  blankLine : Bool := false

/-- Join one more line to a block scalar. -/
def BlockLines.add (s : BlockLines) (folded : Bool) (line : List Char) : BlockLines :=
  let blank := (line.head?.map isSpaceOrTab).getD false
  let joint :=
    if folded && s.lineBreak = ['\n'] && !s.blankLine && !blank then
      if s.breaks.isEmpty then [' '] else []
    else s.lineBreak
  { reversed := line.reverse ++ s.breaks ++ joint ++ s.reversed, blankLine := blank }

/-- The text of a block scalar behind its last line. -/
def BlockLines.close (s : BlockLines) (chomping : Chomping) : String :=
  let tail := match chomping with
    | .strip => []
    | .clip => s.lineBreak
    | .keep => s.breaks ++ s.lineBreak
  String.ofList (tail ++ s.reversed).reverse

/-- Read the lines of a block scalar that are indented by a number of columns. -/
def readBlockLines (folded : Bool) (indent : Nat) (start : Mark) (c : Cursor) (s : BlockLines) :
    Except Unreadable (BlockLines × Cursor) :=
  if _h : c.mark.column = indent ∧ c.rest ≠ [] then
    let line := c.rest.takeWhile fun x => !isBreak x
    let c₁ := c.skipWhile fun x => !isBreak x
    let s := s.add folded line
    match _hb : c₁.takeBreak? with
    | none => .ok (s, c₁)
    | some (b, c₂) =>
      match _hs : skipIndent (some indent) start c₂ with
      | .error e => .error e
      | .ok (breaks, _, c₃) =>
        readBlockLines folded indent start c₃ { s with lineBreak := [b], breaks }
  else .ok (s, c)
termination_by c.rest.length
decreasing_by grind

@[grind →] theorem length_readBlockLines_le {folded : Bool} {indent : Nat} {start : Mark}
    {c c' : Cursor} {s s' : BlockLines}
    (h : readBlockLines folded indent start c s = .ok (s', c')) :
    c'.rest.length ≤ c.rest.length := by
  fun_induction readBlockLines folded indent start c s <;> grind

/-- Read a block scalar from behind its indicator. Unless the header says otherwise its lines are
indented like the first of them, and further than the parent node, which stands at `parent`. -/
def readBlock (folded : Bool) (parent : Option Nat) (start : Mark) (c : Cursor) :
    Except Unreadable (String × Cursor) :=
  match readBlockHeader start c with
  | .error e => .error e
  | .ok (header, c) =>
    match skipToNextLine (.badBlockHeader start) c with
    | .error e => .error e
    | .ok c =>
      let given := header.increment.map fun n => parent.getD 0 + n
      match skipIndent given start c with
      | .error e => .error e
      | .ok (breaks, widest, c) =>
        let least := match parent with
          | some n => n + 1
          | none => 1
        let indent := given.getD (max widest least)
        match readBlockLines folded indent start c { breaks } with
        | .error e => .error e
        | .ok (lines, c) => .ok (lines.close header.chomping, c)

@[grind →] theorem length_readBlock_le {folded : Bool} {parent : Option Nat} {start : Mark}
    {c c' : Cursor} {s : String} (h : readBlock folded parent start c = .ok (s, c')) :
    c'.rest.length ≤ c.rest.length := by
  unfold readBlock at h
  grind

end StartOrder.Yaml
