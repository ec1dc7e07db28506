import StartOrder.Number.Digits

/-!
# JSON tokens

The words of a JSON text. A string is first read as code points, with halves of surrogate pairs as
they are numbered (`readString`), and these are joined to a text afterwards (`joinPairs`), because a
half without its other half is a fault only where the text of the string is asked for.

A token takes at least one character, by which reading ends; the lemmas about lengths are there for
that.
-/

namespace StartOrder

/-- A word of a JSON text. -/
inductive JsonToken where
  | openObject
  | closeObject
  | openArray
  | closeArray
  | colon
  | comma
  | null
  | bool (b : Bool)
  | number (spelling : String)
  | string (text : Option String)
  deriving DecidableEq, Repr

namespace JsonToken

/-- Change what was read at the front of a text, but not what is behind it. -/
def mapRead {α β : Type} (f : α → β) (r : α × List Char) : β × List Char := (f r.1, r.2)

theorem of_map_mapRead {α β : Type} {f : α → β} {o : Option (α × List Char)} {b : β}
    {behind : List Char} (h : o.map (mapRead f) = some (b, behind)) :
    ∃ a, o = some (a, behind) := by
  obtain ⟨⟨a, c⟩, ho, hr⟩ := Option.map_eq_some_iff.mp h
  simp only [mapRead, Prod.mk.injEq] at hr
  exact ⟨a, hr.2 ▸ ho⟩

/-! ## Strings -/

/-- The character that a one-letter escape stands for. -/
def simpleEscape? (c : Char) : Option Char :=
  match c with
  | '"' => some '"'
  | '\\' => some '\\'
  | '/' => some '/'
  | 'b' => some (Char.ofNat 8)
  | 'f' => some (Char.ofNat 12)
  | 'n' => some '\n'
  | 'r' => some '\r'
  | 't' => some '\t'
  | _ => none

/-- Read a string from behind its opening quote: the code points in it, and what is behind the
closing quote. Controls must be escaped. -/
def readString : List Char → Option (List Nat × List Char)
  | [] => none
  | '"' :: rest => some ([], rest)
  | '\\' :: 'u' :: a :: b :: c :: d :: rest =>
    (Number.ofDigits? 16 [a, b, c, d]).bind fun n => (readString rest).map (mapRead (n :: ·))
  | '\\' :: e :: rest =>
    (simpleEscape? e).bind fun x => (readString rest).map (mapRead (x.toNat :: ·))
  | x :: rest =>
    if x = '\\' || x.toNat < 0x20 then none
    else (readString rest).map (mapRead (x.toNat :: ·))

theorem length_readString_lt {cs behind : List Char} {units : List Nat}
    (h : readString cs = some (units, behind)) : behind.length < cs.length := by
  fun_induction readString cs generalizing units behind with
  | case1 => simp at h
  | case2 rest => simp_all
  | case3 a b c d rest ih =>
    obtain ⟨n, -, h⟩ := Option.bind_eq_some_iff.mp h
    have := ih (of_map_mapRead h).choose_spec
    simp only [List.length_cons]
    omega
  | case4 e rest _ ih =>
    obtain ⟨n, -, h⟩ := Option.bind_eq_some_iff.mp h
    have := ih (of_map_mapRead h).choose_spec
    simp only [List.length_cons]
    omega
  | case5 => simp at h
  | case6 x rest _ _ _ _ ih =>
    have := ih (of_map_mapRead h).choose_spec
    simp only [List.length_cons]
    omega

/-- The text that code points make. A surrogate pair makes one character; half of one makes none. -/
def joinPairs : List Nat → Option (List Char)
  | [] => some []
  | [n] => if n.isValidChar then some [Char.ofNat n] else none
  | n :: m :: rest =>
    if 0xD800 ≤ n ∧ n < 0xDC00 ∧ 0xDC00 ≤ m ∧ m < 0xE000 then
      (joinPairs rest).map (Char.ofNat (0x10000 + (n - 0xD800) * 0x400 + (m - 0xDC00)) :: ·)
    else if n.isValidChar then (joinPairs (m :: rest)).map (Char.ofNat n :: ·)
    else none

/-! ## Numbers -/

/-- Digits at the front of a text, of which there must be one, and what is behind them. -/
def digits? (cs : List Char) : Option (List Char × List Char) :=
  let ds := cs.takeWhile Char.isDigit
  if ds.isEmpty then none else some (ds, cs.drop ds.length)

/-- The fraction at the front of a text, if there is one. -/
def fraction? : List Char → Option (List Char × List Char)
  | '.' :: rest => (digits? rest).map (mapRead ('.' :: ·))
  | cs => some ([], cs)

/-- A power of ten from behind its letter. -/
def power? : List Char → Option (List Char × List Char)
  | '+' :: rest => (digits? rest).map (mapRead ('+' :: ·))
  | '-' :: rest => (digits? rest).map (mapRead ('-' :: ·))
  | rest => digits? rest

/-- The power of ten at the front of a text, if there is one. -/
def exponent? : List Char → Option (List Char × List Char)
  | 'e' :: rest => (power? rest).map (mapRead ('e' :: ·))
  | 'E' :: rest => (power? rest).map (mapRead ('E' :: ·))
  | cs => some ([], cs)

/-- The whole part at the front of a text, which has no needless zero. -/
def whole? (cs : List Char) : Option (List Char × List Char) :=
  (digits? cs).filter fun r => r.1.head? ≠ some '0' || r.1.length = 1

/-- The number at the front of a text without a sign, and what is behind it. -/
def unsigned? (cs : List Char) : Option (List Char × List Char) :=
  (whole? cs).bind fun w =>
    (fraction? w.2).bind fun f =>
      (exponent? f.2).map (mapRead (w.1 ++ f.1 ++ ·))

/-- The number at the front of a text, and what is behind it. -/
def number? : List Char → Option (List Char × List Char)
  | '-' :: rest => (unsigned? rest).map (mapRead ('-' :: ·))
  | cs => unsigned? cs

theorem length_digits?_lt {cs ds behind : List Char} (h : digits? cs = some (ds, behind)) :
    behind.length < cs.length := by
  have hle := (List.takeWhile_prefix (l := cs) Char.isDigit).length_le
  simp only [digits?, Option.ite_none_left_eq_some, Option.some.injEq, Prod.mk.injEq] at h
  obtain ⟨hne, -, rfl⟩ := h
  have hpos := List.length_pos_iff.mpr fun e => hne (List.isEmpty_iff.mpr e)
  simp only [List.length_drop]
  omega

theorem length_fraction?_le {cs ds behind : List Char} (h : fraction? cs = some (ds, behind)) :
    behind.length ≤ cs.length := by
  unfold fraction? at h
  split at h
  · have := length_digits?_lt (of_map_mapRead h).choose_spec
    simp only [List.length_cons]
    omega
  · simp_all

theorem length_power?_le {cs ds behind : List Char} (h : power? cs = some (ds, behind)) :
    behind.length ≤ cs.length := by
  unfold power? at h
  split at h
  · have := length_digits?_lt (of_map_mapRead h).choose_spec
    simp only [List.length_cons]
    omega
  · have := length_digits?_lt (of_map_mapRead h).choose_spec
    simp only [List.length_cons]
    omega
  · exact Nat.le_of_lt (length_digits?_lt h)

theorem length_exponent?_le {cs ds behind : List Char} (h : exponent? cs = some (ds, behind)) :
    behind.length ≤ cs.length := by
  unfold exponent? at h
  split at h
  · have := length_power?_le (of_map_mapRead h).choose_spec
    simp only [List.length_cons]
    omega
  · have := length_power?_le (of_map_mapRead h).choose_spec
    simp only [List.length_cons]
    omega
  · simp_all

theorem length_unsigned?_lt {cs ds behind : List Char} (h : unsigned? cs = some (ds, behind)) :
    behind.length < cs.length := by
  obtain ⟨⟨w, c₁⟩, hw, h⟩ := Option.bind_eq_some_iff.mp h
  obtain ⟨⟨f, c₂⟩, hf, h⟩ := Option.bind_eq_some_iff.mp h
  have h₁ := length_digits?_lt (Option.filter_eq_some_iff.mp hw).1
  have h₂ := length_fraction?_le hf
  have h₃ := length_exponent?_le (of_map_mapRead h).choose_spec
  simp only at h₂ h₃
  omega

theorem length_number?_lt {cs ds behind : List Char} (h : number? cs = some (ds, behind)) :
    behind.length < cs.length := by
  unfold number? at h
  split at h
  · have := length_unsigned?_lt (of_map_mapRead h).choose_spec
    simp only [List.length_cons]
    omega
  · exact length_unsigned?_lt h

/-! ## Tokens -/

/-- A blank between tokens. -/
def isBlank (c : Char) : Bool := c = ' ' || c = '\n' || c = '\r' || c = '\t'

/-- The token at the front of a text, and what is behind it. -/
def next? (cs : List Char) : Option (JsonToken × List Char) :=
  match cs with
  | '\x7b' :: rest => some (.openObject, rest)
  | '\x7d' :: rest => some (.closeObject, rest)
  | '[' :: rest => some (.openArray, rest)
  | ']' :: rest => some (.closeArray, rest)
  | ':' :: rest => some (.colon, rest)
  | ',' :: rest => some (.comma, rest)
  | 'n' :: 'u' :: 'l' :: 'l' :: rest => some (.null, rest)
  | 't' :: 'r' :: 'u' :: 'e' :: rest => some (.bool true, rest)
  | 'f' :: 'a' :: 'l' :: 's' :: 'e' :: rest => some (.bool false, rest)
  | '"' :: rest =>
    (readString rest).map (mapRead fun units => .string ((joinPairs units).map String.ofList))
  | cs => (number? cs).map (mapRead fun spelling => .number (String.ofList spelling))

/-- A token takes at least one character. -/
theorem length_next?_lt {cs behind : List Char} {token : JsonToken}
    (h : next? cs = some (token, behind)) : behind.length < cs.length := by
  unfold next? at h
  split at h
  iterate 9
    · simp only [Option.some.injEq, Prod.mk.injEq] at h
      simp only [List.length_cons, ← h.2]
      omega
  · have := length_readString_lt (of_map_mapRead h).choose_spec
    simp only [List.length_cons]
    omega
  · exact length_number?_lt (of_map_mapRead h).choose_spec

/-- The tokens of a text. -/
def ofChars? (cs : List Char) : Option (List JsonToken) :=
  match cs with
  | [] => some []
  | c :: rest =>
    if isBlank c then ofChars? rest
    else match _h : next? (c :: rest) with
      | none => none
      | some (token, behind) => (ofChars? behind).map (token :: ·)
termination_by cs.length
decreasing_by
  · simp
  · exact length_next?_lt _h

end JsonToken

end StartOrder
