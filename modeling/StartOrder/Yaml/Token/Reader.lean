import StartOrder.Yaml.Scalar.Plain
import StartOrder.Yaml.Token.Layout
import StartOrder.Yaml.Token.Properties

/-!
# Reading tokens

A YAML text as the list of its tokens. A step skips what stands before the next token
(`skipToToken`), closes the blocks that end there, and reads one token (`Layout.next`). It leaves a
shorter text, so reading ends; the lemmas tagged for `grind` carry this from each part of a step to
the whole.
-/

namespace StartOrder.Yaml

/-- Skip a byte order mark at the start of a line. -/
def skipOrderMark (c : Cursor) : Cursor :=
  if c.mark.column = 0 && c.rest.head? = some '\uFEFF' then c.advance 1 else c

@[grind! .] theorem length_skipOrderMark_le (c : Cursor) :
    (skipOrderMark c).rest.length ≤ c.rest.length := by
  unfold skipOrderMark
  grind

/-- Skip blanks, comments and breaks. Tabs count as blanks only where no key may begin; outside
brackets a key may begin on each new line. A byte order mark may stand at the start of each line. -/
def skipToToken (flow allowed : Bool) (c : Cursor) : Cursor × Bool :=
  let c₁ := (skipOrderMark c).skipWhile fun x => x = ' ' || ((flow || !allowed) && x = '\t')
  let c₂ := if c₁.rest.head? = some '#' then c₁.skipWhile (fun x => !isBreak x) else c₁
  match _h : c₂.takeBreak? with
  | some (_, c₃) => skipToToken flow (allowed || !flow) c₃
  | none => (c₂, allowed)
termination_by c.rest.length
decreasing_by grind

theorem length_skipToToken_le (flow allowed : Bool) (c : Cursor) :
    (skipToToken flow allowed c).1.rest.length ≤ c.rest.length := by
  fun_induction skipToToken flow allowed c <;> grind

/-- Whether a plain scalar may begin with a text. -/
def startsPlain (flow : Bool) : List Char → Bool
  | [] => false
  | x :: rest =>
    if x = '-' then !(rest.head?.map isSpaceOrTab).getD false
    else if x = '?' || x = ':' then !flow && !endsWord rest
    else !isBlankOrBreak x && !",[]\x7b\x7d#&*!|>'\"%@\x60".toList.contains x

namespace Layout

/-- Append a token of a number of characters to a layout, and skip them. -/
def emit (s : Except Unreadable Layout) (kind : TokenKind) (c : Cursor) (n : Nat) :
    Except Unreadable (Layout × Cursor) :=
  match s with
  | .error e => .error e
  | .ok s => .ok (s.push kind c.mark (c.advance n).mark, c.advance n)

@[grind →] theorem cursor_of_emit {s : Except Unreadable Layout} {kind : TokenKind} {c c' : Cursor}
    {n : Nat} {s' : Layout} (h : emit s kind c n = .ok (s', c')) : c' = c.advance n := by
  unfold emit at h
  grind

/-- Append a token whose text was read separately. -/
def emitRead {α : Type} (s : Except Unreadable Layout) (start : Mark)
    (result : Except Unreadable (α × Cursor)) (kind : α → TokenKind) :
    Except Unreadable (Layout × Cursor) :=
  match s, result with
  | .ok s, .ok (a, c') => .ok (s.push (kind a) start c'.mark, c')
  | .error e, _ => .error e
  | _, .error e => .error e

@[grind →] theorem result_of_emitRead {α : Type} {s : Except Unreadable Layout} {start : Mark}
    {result : Except Unreadable (α × Cursor)} {kind : α → TokenKind} {s' : Layout} {c' : Cursor}
    (h : emitRead s start result kind = .ok (s', c')) : ∃ a, result = .ok (a, c') := by
  unfold emitRead at h
  grind

/-- A layout where no key may begin next. -/
def noKey (s : Layout) : Layout := { s with keyAllowed := false }

/-- A layout where a key may begin next. -/
def mayKey (s : Layout) : Layout := { s with keyAllowed := true }

/-- The layout before the marker of a document, which closes all blocks. -/
def atDocumentMark (s : Layout) (mark : Mark) : Except Unreadable Layout :=
  (s.dedentTo none mark).dropPending.map noKey

/-- The layout before the entry of a sequence. -/
def atEntry (s : Layout) (mark : Mark) : Except Unreadable Layout :=
  if !s.flow && !s.keyAllowed then .error (.misplacedEntry mark)
  else (s.indentTo mark.column .blockSequenceStart mark).dropPending.map mayKey

/-- The layout before a key that is marked as such. -/
def atKey (s : Layout) (mark : Mark) : Except Unreadable Layout :=
  if !s.flow && !s.keyAllowed then .error (.misplacedKey mark)
  else (s.indentTo mark.column .blockMappingStart mark).dropPending.map
    fun t => { t with keyAllowed := !t.flow }

/-- The layout before a value. The pending key, if there is one, was a key. -/
def atValue (s : Layout) (mark : Mark) : Except Unreadable Layout :=
  match s.pending with
  | some key =>
    let s := s.insertAt key.number .key key.mark
    let s := s.indentTo key.mark.column .blockMappingStart key.mark (some key.number)
    .ok { s with pending := none, keyAllowed := false }
  | none =>
    if !s.flow && !s.keyAllowed then .error (.misplacedValue mark)
    else
      let s := s.indentTo mark.column .blockMappingStart mark
      .ok { s with keyAllowed := !s.flow }

/-- The indicator of one character at the front of a text, and the layout before it. -/
def indicator? (s : Layout) (mark : Mark) (cs : List Char) :
    Option (Except Unreadable Layout × TokenKind) :=
  let ends := s.flow || endsWord cs.tail
  match cs.head? with
  | some '[' => some ((s.savePending mark).map openBracket, .flowSequenceStart)
  | some '\x7b' => some ((s.savePending mark).map openBracket, .flowMappingStart)
  | some ']' => some (s.dropPending.map closeBracket, .flowSequenceEnd)
  | some '\x7d' => some (s.dropPending.map closeBracket, .flowMappingEnd)
  | some ',' => some (s.dropPending.map mayKey, .flowEntry)
  | some '-' => if endsWord cs.tail then some (s.atEntry mark, .blockEntry) else none
  | some '?' => if ends then some (s.atKey mark, .key) else none
  | some ':' => if ends then some (s.atValue mark, .value) else none
  | _ => none

/-- Read a plain scalar, which begins with a given character. -/
def nextPlain (s : Layout) (c : Cursor) (first : Char) : Except Unreadable (Layout × Cursor) :=
  let indent := match s.indents with
    | [] => 0
    | n :: _ => n + 1
  match s.savePending c.mark, readPlain s.flow indent c.mark (c.advance 1) .none [first] with
  | .ok s, .ok plain =>
    .ok ({ s with keyAllowed := plain.hasBreak }.push (.scalar .plain plain.text) c.mark
      plain.behind.mark, plain.behind)
  | .error e, _ => .error e
  | _, .error e => .error e

/-- Read an anchor, an alias, a tag or a scalar, which begins with a given character. -/
def nextNode (s : Layout) (c : Cursor) (first : Char) : Except Unreadable (Layout × Cursor) :=
  let m := c.mark
  let saved := (s.savePending m).map noKey
  let behind := c.advance 1
  if first = '*' then emitRead saved m (readName m behind) .alias
  else if first = '&' then emitRead saved m (readName m behind) .anchor
  else if first = '!' then emitRead saved m (readTag s.flow m behind) id
  else if (first = '|' || first = '>') && !s.flow then
    emitRead (s.dropPending.map mayKey) m (readBlock (first = '>') s.indents.head? m behind)
      (.scalar (if first = '>' then .folded else .literal))
  else if first = '\'' || first = '"' then
    emitRead saved m (readQuoted (first = '\'') m behind) (.scalar .quoted)
  else if startsPlain s.flow c.rest then s.nextPlain c first
  else .error (.noToken m)

/-- Read a directive. -/
def nextDirective (s : Layout) (c : Cursor) : Except Unreadable (Layout × Cursor) :=
  match s.atDocumentMark c.mark, readDirective c.mark (c.advance 1) with
  | .ok s, .ok (kind, stop, c') => .ok (s.push kind c.mark stop, c')
  | .error e, _ => .error e
  | _, .error e => .error e

/-- Read the token at a cursor that stands neither at a blank nor at the end. -/
def next (s : Layout) (c : Cursor) : Except Unreadable (Layout × Cursor) :=
  match c.rest.head? with
  | none => .error (.noToken c.mark)
  | some first =>
    if c.mark.column = 0 && first = '%' then s.nextDirective c
    else if c.mark.column = 0 && startsWithDocumentMark c.rest then
      emit (s.atDocumentMark c.mark) (if first = '-' then .documentStart else .documentEnd) c 3
    else match s.indicator? c.mark c.rest with
      | some (before, kind) => emit before kind c 1
      | none => s.nextNode c first

@[grind →] theorem length_nextPlain_le {s s' : Layout} {c c' : Cursor} {first : Char}
    (h : s.nextPlain c first = .ok (s', c')) : c'.rest.length ≤ (c.advance 1).rest.length := by
  unfold nextPlain at h
  grind

theorem length_nextNode_le {s s' : Layout} {c c' : Cursor} {first : Char}
    (h : s.nextNode c first = .ok (s', c')) : c'.rest.length ≤ (c.advance 1).rest.length := by
  unfold nextNode at h
  grind

theorem length_nextDirective_le {s s' : Layout} {c c' : Cursor}
    (h : s.nextDirective c = .ok (s', c')) : c'.rest.length ≤ (c.advance 1).rest.length := by
  unfold nextDirective at h
  grind

/-- A token takes at least one character. -/
theorem length_next_lt {s s' : Layout} {c c' : Cursor} (h : s.next c = .ok (s', c')) :
    c'.rest.length < c.rest.length := by
  have hadv : ∀ n, c.rest ≠ [] → (c.advance (n + 1)).rest.length < c.rest.length := by
    intro n hc
    have := List.length_pos_iff.mpr hc
    simp
    omega
  unfold next at h
  split at h
  · simp at h
  · next x hx =>
    have hne : c.rest ≠ [] := by rintro hc; simp [hc] at hx
    have h₁ := hadv 0 hne
    have h₃ := hadv 2 hne
    split at h
    · exact Nat.lt_of_le_of_lt (length_nextDirective_le h) h₁
    · split at h
      · rw [cursor_of_emit h]; exact h₃
      · split at h
        · rw [cursor_of_emit h]; exact h₁
        · exact Nat.lt_of_le_of_lt (length_nextNode_le h) h₁

/-- The end of the stream: all blocks are closed, and no key may be pending. -/
def finish (s : Layout) (mark : Mark) : Except Unreadable (List Token) :=
  let mark := if mark.column = 0 then mark else mark.newline 0
  match (s.dedentTo none mark).dropPending with
  | .error e => .error e
  | .ok s => .ok (s.push .streamEnd mark mark).reversed.reverse

/-- The tokens of a text behind those that were read. -/
def readAll (s : Layout) (c : Cursor) : Except Unreadable (List Token) :=
  match _hc : skipToToken s.flow s.keyAllowed c with
  | (c₁, keyAllowed) =>
    match { s with keyAllowed }.expire c₁.mark with
    | .error e => .error e
    | .ok s =>
      let s := s.dedentTo (some c₁.mark.column) c₁.mark
      if c₁.rest.isEmpty then s.finish c₁.mark
      else
        match _hn : s.next c₁ with
        | .error e => .error e
        | .ok (s, c₂) => readAll s c₂
termination_by c.rest.length
decreasing_by
  have h₂ := length_next_lt _hn
  have h₁ := congrArg (fun r => r.1.rest.length) _hc
  exact Nat.lt_of_lt_of_le h₂ (h₁ ▸ length_skipToToken_le _ _ c)

end Layout

/-- The tokens of a text. -/
def tokens (text : List Char) : Except Unreadable (List Token) :=
  if text.all isAllowed then Layout.readAll {} ⟨{}, text⟩ else .error .forbiddenCharacter

end StartOrder.Yaml
