/-!
# Positions in a document's text

The text of a YAML document that is still to be read, together with the place where it begins, and
the classes of characters that YAML tells apart. A place is counted twice, in octets from the start
and by line and column in characters, since complaints use both.

All reading moves a `Cursor`, either within a line (`Cursor.advance`) or over a break
(`Cursor.takeBreak?`). The lemmas beside these say that the text behind a cursor gets no longer, and
shorter by what was taken; all loops of the reader end by them.
-/

namespace StartOrder.Yaml

/-- A place in a text: its offset in the octets of the text, its line, and its column in
characters. -/
structure Mark where
  index : Nat := 0
  line : Nat := 0
  column : Nat := 0
  deriving DecidableEq, Repr, Inhabited

namespace Mark

/-- The place behind some characters of the same line. -/
def behind (m : Mark) (cs : List Char) : Mark :=
  { m with
    index := cs.foldl (fun n c => n + c.utf8Size) m.index
    column := m.column + cs.length }

/-- The start of the next line, behind a break of a number of octets. -/
def newline (m : Mark) (n : Nat) : Mark := ⟨m.index + n, m.line + 1, 0⟩

end Mark

/-! ## Classes of characters -/

/-- A space or a tab. -/
def isSpaceOrTab (c : Char) : Bool := c = ' ' || c = '\t'

/-- A line break: carriage return, line feed, next line, line separator or paragraph separator. -/
def isBreak (c : Char) : Bool :=
  c = '\r' || c = '\n' || c.toNat = 0x85 || c.toNat = 0x2028 || c.toNat = 0x2029

/-- A space, a tab or a line break. -/
def isBlankOrBreak (c : Char) : Bool := isSpaceOrTab c || isBreak c

/-- A letter or digit of ASCII, `_` or `-`. -/
def isWordChar (c : Char) : Bool :=
  ('0' ≤ c && c ≤ '9') || ('A' ≤ c && c ≤ 'Z') || ('a' ≤ c && c ≤ 'z') || c = '_' || c = '-'

/-- The characters that a document may contain. -/
def isAllowed (c : Char) : Bool :=
  let n := c.toNat
  n == 0x9 || n == 0xA || n == 0xD || (0x20 ≤ n && n ≤ 0x7E) || n == 0x85 ||
    (0xA0 ≤ n && n ≤ 0xD7FF) || (0xE000 ≤ n && n ≤ 0xFFFD) || 0x10000 ≤ n

/-- Whether a text is empty or begins with a blank or a break, so that a word ends before it. -/
def endsWord : List Char → Bool
  | [] => true
  | c :: _ => isBlankOrBreak c

/-- Whether a text begins with `---` or `...` as a word of its own. -/
def startsWithDocumentMark : List Char → Bool
  | '-' :: '-' :: '-' :: rest => endsWord rest
  | '.' :: '.' :: '.' :: rest => endsWord rest
  | _ => false

/-! ## Cursors -/

/-- The text still to be read and the place where it begins. -/
structure Cursor where
  mark : Mark
  rest : List Char
  deriving Inhabited

namespace Cursor

/-- Skip a number of characters of the current line. -/
def advance (c : Cursor) (n : Nat) : Cursor := ⟨c.mark.behind (c.rest.take n), c.rest.drop n⟩

/-- Skip the characters at the front that satisfy a test, which no break does. -/
def skipWhile (c : Cursor) (p : Char → Bool) : Cursor := c.advance (c.rest.takeWhile p).length

/-- The break at the front, as it counts in a value, and what is behind it. A carriage return with
the line feed behind it is one break; a separator stands for itself, any other break for a line
feed. -/
def takeBreak? (c : Cursor) : Option (Char × Cursor) :=
  match c.rest with
  | '\r' :: '\n' :: rest => some ('\n', ⟨c.mark.newline 2, rest⟩)
  | x :: rest =>
    if isBreak x then
      some (if x.toNat = 0x2028 || x.toNat = 0x2029 then x else '\n',
        ⟨c.mark.newline x.utf8Size, rest⟩)
    else none
  | [] => none

@[simp] theorem rest_advance (c : Cursor) (n : Nat) : (c.advance n).rest = c.rest.drop n := rfl

@[grind! .] theorem length_advance_le (c : Cursor) (n : Nat) :
    (c.advance n).rest.length ≤ c.rest.length := by
  simp

@[grind! .] theorem length_skipWhile_le (c : Cursor) (p : Char → Bool) :
    (c.skipWhile p).rest.length ≤ c.rest.length := c.length_advance_le _

@[grind →] theorem length_takeBreak_lt {c c' : Cursor} {b : Char}
    (h : c.takeBreak? = some (b, c')) :
    c'.rest.length < c.rest.length := by
  unfold takeBreak? at h
  split at h
  · next heq => simp at h; rw [← h.2, heq]; exact Nat.lt_succ_of_lt (Nat.lt_succ_self _)
  · next heq => split at h <;> simp at h; rw [← h.2, heq]; simp
  · simp at h

end Cursor

end StartOrder.Yaml
