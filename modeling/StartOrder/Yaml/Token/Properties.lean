import StartOrder.Yaml.Scalar.Block
import StartOrder.Yaml.Tag
import StartOrder.Yaml.Token

/-!
# Node properties and directives

Anchors, aliases, tags, and the directives that declare versions and tag handles. A tag is a handle
and what is behind it, or a verbatim one between angles; octets that are written by their numbers
are decoded, and must form characters.
-/

namespace StartOrder.Yaml

/-- Whether the name of an anchor may end before a text. -/
def endsName (cs : List Char) : Bool :=
  endsWord cs || (cs.head?.map fun x => "?:,]\x7d%@\x60".toList.contains x).getD false

/-- Read the name of an anchor or alias from behind its indicator. -/
def readName (start : Mark) (c : Cursor) : Except Unreadable (String × Cursor) :=
  let name := c.rest.takeWhile isWordChar
  let c' := c.skipWhile isWordChar
  if name.isEmpty || !endsName c'.rest then .error (.badAnchor start)
  else .ok (String.ofList name, c')

@[grind →] theorem length_readName_le {start : Mark} {c c' : Cursor} {name : String}
    (h : readName start c = .ok (name, c')) : c'.rest.length ≤ c.rest.length := by
  unfold readName at h
  grind

/-! ## Tags -/

/-- The characters of a tag besides escaped octets; brackets and commas only in a verbatim tag. -/
def isUriChar (verbatim : Bool) (c : Char) : Bool :=
  isWordChar c || ";/?:@&=+$.!~*'()".toList.contains c || (verbatim && ",[]".toList.contains c)

/-- How many octets a character takes whose first octet is given. -/
def octetCount? (octet : Nat) : Option Nat :=
  if octet < 0x80 then some 1
  else if 0xC0 ≤ octet ∧ octet < 0xE0 then some 2
  else if 0xE0 ≤ octet ∧ octet < 0xF0 then some 3
  else if 0xF0 ≤ octet ∧ octet < 0xF8 then some 4
  else none

/-- The octet that two hexadecimal digits at the front of a text write. -/
def octet? : List Char → Option Nat
  | a :: b :: _ => Number.ofDigits? 16 [a, b]
  | _ => none

/-- Read the octets of a tag, last first. An octet may be written as `%` and two hexadecimal digits;
`pending` is the number of octets that a character so begun still lacks. -/
def readUri (verbatim : Bool) (start : Mark) (c : Cursor) (pending : Nat := 0)
    (reversed : List UInt8 := []) : Except Unreadable (List UInt8 × Cursor) :=
  match _hc : c.rest with
  | '%' :: rest =>
    match octet? rest with
    | some octet =>
      if pending = 0 then
        match octetCount? octet with
        | some n =>
          readUri verbatim start (c.advance 3) (n - 1) (UInt8.ofNat octet :: reversed)
        | none => .error (.badTag start)
      else if 0x80 ≤ octet ∧ octet < 0xC0 then
        readUri verbatim start (c.advance 3) (pending - 1) (UInt8.ofNat octet :: reversed)
      else .error (.badTag start)
    | none => .error (.badTag start)
  | x :: _ =>
    if pending ≠ 0 then .error (.badTag start)
    else if isUriChar verbatim x then
      readUri verbatim start (c.advance 1) 0 (UInt8.ofNat x.toNat :: reversed)
    else .ok (reversed, c)
  | [] => if pending ≠ 0 then .error (.badTag start) else .ok (reversed, c)
termination_by c.rest.length
decreasing_by all_goals simp [_hc]; try omega

@[grind →] theorem length_readUri_le {verbatim : Bool} {start : Mark} {c c' : Cursor}
    {pending : Nat} {reversed octets : List UInt8}
    (h : readUri verbatim start c pending reversed = .ok (octets, c')) :
    c'.rest.length ≤ c.rest.length := by
  fun_induction readUri verbatim start c pending reversed <;> grind

/-- Read a handle from behind its `!`: that alone, or a word between two of them, or a word behind
it that turns out to be none. -/
def readHandle (c : Cursor) : List Char × Cursor :=
  let word := c.rest.takeWhile isWordChar
  let c' := c.skipWhile isWordChar
  if c'.rest.head? = some '!' then ('!' :: word ++ ['!'], c'.advance 1) else ('!' :: word, c')

@[grind! .] theorem length_readHandle_le (c : Cursor) :
    (readHandle c).2.rest.length ≤ c.rest.length := by
  unfold readHandle
  grind

/-- The parts of a tag, read from behind its `!`. The tag `!` itself has no handle. -/
def readTagParts (start : Mark) (c : Cursor) : Except Unreadable (String × List UInt8 × Cursor) :=
  if c.rest.head? = some '<' then
    match readUri true start (c.advance 1) with
    | .error e => .error e
    | .ok (octets, c') =>
      if octets.isEmpty || c'.rest.head? ≠ some '>' then .error (.badTag start)
      else .ok ("", octets.reverse, c'.advance 1)
  else
    let handle := (readHandle c).1
    match readUri false start (readHandle c).2 with
    | .error e => .error e
    | .ok (octets, c') =>
      if 2 ≤ handle.length && handle.getLast? = some '!' then
        if octets.isEmpty then .error (.badTag start)
        else .ok (String.ofList handle, octets.reverse, c')
      else
        let suffix := Tag.octetsOf (String.ofList handle.tail) ++ octets.reverse
        if (Tag.counting suffix).isEmpty then .ok ("", Tag.octetsOf "!", c')
        else .ok ("!", suffix, c')

@[grind →] theorem length_readTagParts_le {start : Mark} {c c' : Cursor} {handle : String}
    {suffix : List UInt8} (h : readTagParts start c = .ok (handle, suffix, c')) :
    c'.rest.length ≤ c.rest.length := by
  unfold readTagParts at h
  grind

/-- Read a tag from behind its `!`. A word must end behind it; in a flow
collection a comma may follow. -/
def readTag (flow : Bool) (start : Mark) (c : Cursor) : Except Unreadable (TokenKind × Cursor) :=
  match readTagParts start c with
  | .error e => .error e
  | .ok (handle, suffix, c') =>
    if endsWord c'.rest || (flow && c'.rest.head? = some ',') then .ok (.tag handle suffix, c')
    else .error (.badTag start)

@[grind →] theorem length_readTag_le {flow : Bool} {start : Mark} {c c' : Cursor}
    {kind : TokenKind} (h : readTag flow start c = .ok (kind, c')) :
    c'.rest.length ≤ c.rest.length := by
  unfold readTag at h
  grind

/-! ## Directives -/

/-- Read a number of at most nine digits. -/
def readVersionNumber (start : Mark) (c : Cursor) : Except Unreadable (Nat × Cursor) :=
  let digits := c.rest.takeWhile Char.isDigit
  if digits.isEmpty || 9 < digits.length then .error (.badDirective start)
  else .ok (Number.ofDecimal digits, c.skipWhile Char.isDigit)

@[grind →] theorem length_readVersionNumber_le {start : Mark} {c c' : Cursor} {n : Nat}
    (h : readVersionNumber start c = .ok (n, c')) : c'.rest.length ≤ c.rest.length := by
  unfold readVersionNumber at h
  grind

/-- Read the version that a directive declares: two numbers with a point between them. -/
def readVersion (start : Mark) (c : Cursor) : Except Unreadable (TokenKind × Cursor) :=
  match readVersionNumber start (c.skipWhile isSpaceOrTab) with
  | .error e => .error e
  | .ok (major, c₁) =>
    if c₁.rest.head? ≠ some '.' then .error (.badDirective start)
    else
      match readVersionNumber start (c₁.advance 1) with
      | .error e => .error e
      | .ok (minor, c₂) => .ok (.versionDirective major minor, c₂)

@[grind →] theorem length_readVersion_le {start : Mark} {c c' : Cursor} {kind : TokenKind}
    (h : readVersion start c = .ok (kind, c')) : c'.rest.length ≤ c.rest.length := by
  unfold readVersion at h
  grind

/-- Read the handle that a directive declares and what it stands for. -/
def readTagDeclaration (start : Mark) (c : Cursor) : Except Unreadable (TokenKind × Cursor) :=
  let c₁ := c.skipWhile isSpaceOrTab
  if c₁.rest.head? ≠ some '!' then .error (.badDirective start)
  else
    let handle := (readHandle (c₁.advance 1)).1
    let c₂ := (readHandle (c₁.advance 1)).2
    let complete := handle.getLast? = some '!'
    let spaced := (c₂.rest.head?.map isSpaceOrTab).getD false
    if !complete || !spaced then .error (.badDirective start)
    else
      match readUri true start (c₂.skipWhile isSpaceOrTab) with
      | .error e => .error e
      | .ok (octets, c₃) =>
        if octets.isEmpty || !endsWord c₃.rest then .error (.badDirective start)
        else .ok (.tagDirective (String.ofList handle) octets.reverse, c₃)

@[grind →] theorem length_readTagDeclaration_le {start : Mark} {c c' : Cursor} {kind : TokenKind}
    (h : readTagDeclaration start c = .ok (kind, c')) : c'.rest.length ≤ c.rest.length := by
  unfold readTagDeclaration at h
  grind

/-- Read a directive from behind its `%`, with the rest of its line. -/
def readDirective (start : Mark) (c : Cursor) : Except Unreadable (TokenKind × Mark × Cursor) :=
  let name := String.ofList (c.rest.takeWhile isWordChar)
  let c₁ := c.skipWhile isWordChar
  if !endsWord c₁.rest then .error (.badDirective start)
  else
    let declaration :=
      if name = "YAML" then readVersion start c₁
      else if name = "TAG" then readTagDeclaration start c₁
      else .error (.badDirective start)
    match declaration with
    | .error e => .error e
    | .ok (kind, c₂) =>
      match skipToNextLine (.badDirective start) c₂ with
      | .error e => .error e
      | .ok c₃ => .ok (kind, c₂.mark, c₃)

@[grind →] theorem length_readDirective_le {start stop : Mark} {c c' : Cursor} {kind : TokenKind}
    (h : readDirective start c = .ok (kind, stop, c')) : c'.rest.length ≤ c.rest.length := by
  unfold readDirective at h
  grind

end StartOrder.Yaml
