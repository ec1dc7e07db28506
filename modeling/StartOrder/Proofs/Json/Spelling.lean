import Mathlib.Data.List.Forall2
import Mathlib.Data.List.TakeWhile
import StartOrder.Json.Reader
import StartOrder.Proofs.Yaml.Decimal

/-!
# How tokens are spelled

Which characters spell which tokens, whatever stands behind them. Brackets, names and strings end by
themselves. A number goes on as long as it can, so that what stands behind it must not look like
more of it (`Stops`): that is why `Spells` is a statement about all texts behind a spelling that
stop a number, and why spellings can only be put one behind the other where the second one stops the
first (`Spells.append`).

That a number is read alike in front of any stop is shown for each of its parts (`ReadsOn`), which
are digits behind one sign or another. One lemma serves all signs (`ReadsOn.signed`).

A string may be escaped in any way. `IsUnitText` says what stands for a code point between quotes,
and `Codes` which code points tell a text, where a character may be given as a surrogate pair; a
string is then read from any spelling of its code points (`next?_of_isQuoted`). Half a surrogate
pair is a string without a text, and can be read, too.
-/

namespace StartOrder.JsonToken

/-! ## Numbers -/

/-- A text does not go on with a number. -/
def Stops (cs : List Char) : Prop :=
  ∀ c ∈ cs.head?, c.isDigit = false ∧ c ≠ '.' ∧ c ≠ 'e' ∧ c ≠ 'E'

theorem stops_nil : Stops [] := fun _ h => nomatch h

theorem stops_cons {c : Char} {cs : List Char} :
    Stops (c :: cs) ↔ c.isDigit = false ∧ c ≠ '.' ∧ c ≠ 'e' ∧ c ≠ 'E' := by
  simp [Stops]

theorem Stops.append {cs rest : List Char} (h : Stops cs) (hrest : Stops rest) :
    Stops (cs ++ rest) := by
  cases cs with
  | nil => exact hrest
  | cons c cs => exact stops_cons.mpr (stops_cons.mp h)

/-- What is read at the front of a text does not depend on what is behind a stop. -/
def ReadsOn {α : Type} (read : List Char → Option (α × List Char)) : Prop :=
  ∀ cs a behind rest, read cs = some (a, behind) → Stops rest →
    read (cs ++ rest) = some (a, behind ++ rest)

theorem ReadsOn.map {α β : Type} {read : List Char → Option (α × List Char)} (h : ReadsOn read)
    (f : α → β) : ReadsOn fun cs => (read cs).map (mapRead f) := by
  intro cs b behind rest hread hstops
  obtain ⟨⟨a, behind'⟩, ha, heq⟩ := Option.map_eq_some_iff.mp hread
  cases heq
  show (read (cs ++ rest)).map (mapRead f) = _
  rw [h cs a behind' rest ha hstops]
  rfl

/-- Two readings one after the other. -/
theorem ReadsOn.bind {α β : Type} {read : List Char → Option (α × List Char)}
    {next : α → List Char → Option (β × List Char)} (h : ReadsOn read)
    (hnext : ∀ a, ReadsOn (next a)) : ReadsOn fun cs => (read cs).bind fun r => next r.1 r.2 := by
  intro cs b behind rest hread hstops
  obtain ⟨⟨a, between⟩, ha, hb⟩ := Option.bind_eq_some_iff.mp hread
  show (read (cs ++ rest)).bind _ = _
  rw [h cs a between rest ha hstops]
  exact hnext a between b behind rest hb hstops

theorem ReadsOn.filter {α : Type} {read : List Char → Option (α × List Char)} (h : ReadsOn read)
    (keep : α → Bool) : ReadsOn fun cs => (read cs).filter fun r => keep r.1 := by
  intro cs a behind rest hread hstops
  obtain ⟨ha, hkeep⟩ := Option.filter_eq_some_iff.mp hread
  exact Option.filter_eq_some_iff.mpr ⟨h cs a behind rest ha hstops, hkeep⟩

theorem digits?_readsOn : ReadsOn digits? := by
  intro cs ds behind rest hread hstops
  have hrest : rest.takeWhile Char.isDigit = [] := by
    cases rest with
    | nil => rfl
    | cons c rest => rw [List.takeWhile_cons, (stops_cons.mp hstops).1, if_neg Bool.false_ne_true]
  -- the digits of the text are those of the front, even if it is digits up to its end
  have htake : (cs ++ rest).takeWhile Char.isDigit = cs.takeWhile Char.isDigit := by
    rw [List.takeWhile_append]
    split
    · next hall =>
      rw [hrest, List.append_nil, (List.takeWhile_prefix _).eq_of_length hall]
    · rfl
  unfold digits? at hread ⊢
  dsimp only at hread ⊢
  rw [htake]
  split at hread
  · cases hread
  · next hne =>
    cases hread
    rw [if_neg hne, List.drop_append_of_le_length (List.takeWhile_prefix _).length_le]

/-- What is read behind a sign, with the sign, if a text begins with it, or else what is read of the
text otherwise. -/
def readSigned (sign : Char) (read other : List Char → Option (List Char × List Char)) :
    List Char → Option (List Char × List Char)
  | [] => other []
  | c :: cs => if c = sign then (read cs).map (mapRead (sign :: ·)) else other (c :: cs)

theorem fraction?_eq : fraction? = readSigned '.' digits? fun cs => some ([], cs) := by
  funext cs
  unfold fraction?
  split
  · rfl
  · cases cs with
    | nil => rfl
    | cons c cs => simp_all [readSigned]

theorem power?_eq : power? = readSigned '+' digits? (readSigned '-' digits? digits?) := by
  funext cs
  unfold power?
  split
  · rfl
  · rfl
  · cases cs with
    | nil => rfl
    | cons c cs => simp_all [readSigned]

theorem exponent?_eq : exponent? =
    readSigned 'e' power? (readSigned 'E' power? fun cs => some ([], cs)) := by
  funext cs
  unfold exponent?
  split
  · rfl
  · rfl
  · cases cs with
    | nil => rfl
    | cons c cs => simp_all [readSigned]

theorem number?_eq : number? = readSigned '-' unsigned? unsigned? := by
  funext cs
  unfold number?
  split
  · rfl
  · cases cs with
    | nil => rfl
    | cons c cs => simp_all [readSigned]

/-- A sign is read on if texts without it are. Where nothing is read otherwise, the sign must not be
one that may stand behind a stop. -/
theorem ReadsOn.signed {sign : Char} {read other : List Char → Option (List Char × List Char)}
    (hread : ReadsOn read) (hother : ReadsOn other)
    (hsign : other [] = none ∨ sign = '.' ∨ sign = 'e' ∨ sign = 'E') :
    ReadsOn (readSigned sign read other) := by
  intro cs ds behind rest h hstops
  cases cs with
  | nil =>
    have hrest := hother [] ds behind rest h hstops
    cases rest with
    | nil => exact hrest
    | cons c rest =>
      -- the front is empty, so that a sign behind it must not be taken for its beginning
      have hc : c ≠ sign := by
        rintro rfl
        rw [readSigned] at h
        rw [h] at hsign
        simp [stops_cons.mp hstops] at hsign
      exact (if_neg hc).trans hrest
  | cons c cs =>
    rw [List.cons_append, readSigned]
    rw [readSigned] at h
    split at h
    · next hc =>
      rw [if_pos hc]
      exact hread.map (sign :: ·) cs ds behind rest h hstops
    · next hc =>
      rw [if_neg hc]
      exact hother (c :: cs) ds behind rest h hstops

theorem readsOn_nothing : ReadsOn fun cs => some (([] : List Char), cs) := by
  intro cs ds behind rest h _
  cases h
  rfl

theorem fraction?_readsOn : ReadsOn fraction? := by
  rw [fraction?_eq]
  exact digits?_readsOn.signed readsOn_nothing (by simp)

theorem power?_readsOn : ReadsOn power? := by
  rw [power?_eq]
  exact digits?_readsOn.signed (digits?_readsOn.signed digits?_readsOn (.inl rfl)) (.inl rfl)

theorem exponent?_readsOn : ReadsOn exponent? := by
  rw [exponent?_eq]
  exact power?_readsOn.signed (power?_readsOn.signed readsOn_nothing (by simp)) (by simp)

theorem unsigned?_readsOn : ReadsOn unsigned? := by
  have hwhole : ReadsOn whole? :=
    digits?_readsOn.filter fun ds => ds.head? ≠ some '0' || ds.length = 1
  exact hwhole.bind fun w => fraction?_readsOn.bind fun f => exponent?_readsOn.map (w ++ f ++ ·)

/-- A number is read at the front of a text up to a stop. -/
theorem number?_readsOn : ReadsOn number? := by
  rw [number?_eq]
  exact unsigned?_readsOn.signed unsigned?_readsOn (.inl rfl)

/-- The decimal digits of a natural number are a number. -/
theorem number?_toString (n : Nat) :
    number? (toString n).toList = some ((toString n).toList, []) := by
  have hlist : (toString n).toList = Nat.toDigits 10 n := Nat.toList_repr
  rw [hlist]
  have hdigit : ∀ c ∈ Nat.toDigits 10 n, c.isDigit := Yaml.isDigit_of_mem_toDigits_ten
  have hdigits : digits? (Nat.toDigits 10 n) = some (Nat.toDigits 10 n, []) := by
    have htake := List.takeWhile_eq_self_iff.mpr hdigit
    unfold digits?
    dsimp only
    rw [htake, if_neg (by simp), List.drop_length]
  -- only zero begins with a zero
  have hwhole : whole? (Nat.toDigits 10 n) = some (Nat.toDigits 10 n, []) := by
    refine Option.filter_eq_some_iff.mpr ⟨hdigits, ?_⟩
    by_cases hn : n = 0
    · subst hn
      rfl
    · simp [Yaml.head?_toDigits_ne_zero hn]
  have hunsigned : unsigned? (Nat.toDigits 10 n) = some (Nat.toDigits 10 n, []) := by
    rw [unsigned?, hwhole]
    simp [fraction?, exponent?, mapRead]
  cases hcs : Nat.toDigits 10 n with
  | nil => exact absurd hcs Nat.toDigits_ne_nil
  | cons c cs =>
    have hsign : c ≠ '-' := by
      rintro rfl
      have hc := hdigit '-' (by rw [hcs]; exact List.mem_cons_self)
      cases hc
    rw [number?_eq, readSigned, if_neg hsign, ← hcs, hunsigned]

/-! ## Strings -/

/-- What stands for a code point between quotes: its character, if that is no quote, no backslash
and no control; a letter behind a backslash; or four digits. -/
inductive IsUnitText : Nat → List Char → Prop
  | plain {c : Char} (hquote : c ≠ '"') (hslash : c ≠ '\\') (hcontrol : 0x20 ≤ c.toNat) :
      IsUnitText c.toNat [c]
  | letter {e x : Char} (h : simpleEscape? e = some x) : IsUnitText x.toNat ['\\', e]
  | digits {a b c d : Char} {n : Nat} (h : Number.ofDigits? 16 [a, b, c, d] = some n) :
      IsUnitText n ['\\', 'u', a, b, c, d]

theorem readString_of_isUnitText {n : Nat} {cs : List Char} (h : IsUnitText n cs)
    (rest : List Char) :
    readString (cs ++ rest) = (readString rest).map (mapRead (n :: ·)) := by
  cases h with
  | plain hquote hslash hcontrol =>
    rw [List.singleton_append, readString]
    · rw [if_neg (by simp [hslash, Nat.not_lt.mpr hcontrol])]
    · exact hquote
    · exact fun a b c d rest h _ => hslash h
    · exact fun e rest h _ => hslash h
  | @letter e x h =>
    have hdigits : e ≠ 'u' := by
      rintro rfl
      cases h
    show readString ('\\' :: e :: rest) = _
    rw [readString]
    · rw [h]
      rfl
    · exact fun a b c d rest hu _ => hdigits hu
  | digits h =>
    show (Number.ofDigits? 16 _).bind _ = _
    rw [h]
    rfl

/-- What stands for code points is read up to a closing quote. -/
theorem readString_of_areUnitTexts {units : List Nat} {texts : List (List Char)}
    (h : List.Forall₂ IsUnitText units texts) (rest : List Char) :
    readString (texts.flatten ++ '"' :: rest) = some (units, rest) := by
  induction h with
  | nil => rfl
  | cons hunit _ ih =>
    rw [List.flatten_cons, List.append_assoc, readString_of_isUnitText hunit, ih]
    rfl

/-- The code points that a text is told by: a character by one, or by a surrogate pair. -/
inductive Codes : List Char → List Nat → Prop
  | nil : Codes [] []
  | char (c : Char) {cs : List Char} {units : List Nat} (h : Codes cs units) :
      Codes (c :: cs) (c.toNat :: units)
  | pair {c : Char} {high low : Nat} {cs : List Char} {units : List Nat}
      (hhigh : 0xD800 ≤ high ∧ high < 0xDC00) (hlow : 0xDC00 ≤ low ∧ low < 0xE000)
      (hc : c.toNat = 0x10000 + (high - 0xD800) * 0x400 + (low - 0xDC00)) (h : Codes cs units) :
      Codes (c :: cs) (high :: low :: units)

theorem codes_map_toNat : ∀ cs : List Char, Codes cs (cs.map Char.toNat)
  | [] => .nil
  | c :: cs => .char c (codes_map_toNat cs)

theorem toNat_ofNat_of_isValidChar {n : Nat} (h : n.isValidChar) : (Char.ofNat n).toNat = n := by
  rw [Char.ofNat, dif_pos h]
  rfl

/-- The code point of a character is no half of a surrogate pair, and stands for itself. -/
theorem joinPairs_toNat_cons (c : Char) (units : List Nat) :
    joinPairs (c.toNat :: units) = (joinPairs units).map (c :: ·) := by
  have hc : c.toNat.isValidChar := c.valid
  cases units with
  | nil =>
    show (if c.toNat.isValidChar then some [Char.ofNat c.toNat] else none) = _
    rw [if_pos hc, Char.ofNat_toNat]
    rfl
  | cons m units =>
    have hpair : ¬(0xD800 ≤ c.toNat ∧ c.toNat < 0xDC00 ∧ 0xDC00 ≤ m ∧ m < 0xE000) := by
      rcases hc with hlow | ⟨hhigh, -⟩ <;> omega
    rw [joinPairs, if_neg hpair, if_pos hc, Char.ofNat_toNat]

/-- Code points make the text that is told by them, and no other text. -/
theorem joinPairs_eq_some_iff {units : List Nat} {cs : List Char} :
    joinPairs units = some cs ↔ Codes cs units := by
  constructor
  · intro h
    fun_induction joinPairs units generalizing cs with
    | case1 =>
      cases h
      exact .nil
    | case2 n hn =>
      cases h
      have hcodes := Codes.char (Char.ofNat n) .nil
      rwa [toNat_ofNat_of_isValidChar hn] at hcodes
    | case3 => cases h
    | case4 n m rest hpair ih =>
      obtain ⟨cs, hrest, rfl⟩ := Option.map_eq_some_iff.mp h
      -- a pair numbers a character beyond the halves of pairs
      have hvalid : (0x10000 + (n - 0xD800) * 0x400 + (m - 0xDC00)).isValidChar :=
        .inr (by omega)
      refine .pair ⟨hpair.1, hpair.2.1⟩ hpair.2.2 ?_ (ih hrest)
      exact toNat_ofNat_of_isValidChar hvalid
    | case5 n m rest _ hn ih =>
      obtain ⟨cs, hrest, rfl⟩ := Option.map_eq_some_iff.mp h
      have hcodes := Codes.char (Char.ofNat n) (ih hrest)
      rwa [toNat_ofNat_of_isValidChar hn] at hcodes
    | case6 => cases h
  · intro h
    induction h with
    | nil => rfl
    | char c _ ih => rw [joinPairs_toNat_cons, ih, Option.map_some]
    | pair hhigh hlow hc _ ih =>
      rw [joinPairs, if_pos ⟨hhigh.1, hhigh.2, hlow⟩, ih, ← hc, Char.ofNat_toNat, Option.map_some]

/-- Some characters are a string between quotes. A string without a text is one whose code points
tell none. -/
def IsQuoted (s : Option String) (cs : List Char) : Prop :=
  ∃ units texts, List.Forall₂ IsUnitText units texts ∧ cs = '"' :: texts.flatten ++ ['"'] ∧
    match s with
    | some s => Codes s.toList units
    | none => ∀ chars, ¬Codes chars units

theorem ofDigits?_hexDigits : ∀ n < 0x20,
    Number.ofDigits? 16 ['0', '0', Json.hexDigit (n / 16), Json.hexDigit n] = some n := by
  decide

/-- What is written for a character stands for its code point. -/
theorem isUnitText_escapedChar (c : Char) : IsUnitText c.toNat (Json.escapedChar c) := by
  unfold Json.escapedChar
  split
  · next h =>
    subst h
    exact .letter rfl
  split
  · next h =>
    subst h
    exact .letter rfl
  split
  · next h =>
    subst h
    exact .letter rfl
  split
  · next h =>
    subst h
    exact .letter rfl
  split
  · next h =>
    subst h
    exact .letter rfl
  split
  · next h =>
    rw [h]
    exact @IsUnitText.letter 'b' (Char.ofNat 8) rfl
  split
  · next h =>
    rw [h]
    exact @IsUnitText.letter 'f' (Char.ofNat 12) rfl
  split
  · next h => exact .digits (ofDigits?_hexDigits c.toNat h)
  · next hquote hslash _ _ _ _ _ hcontrol => exact .plain hquote hslash (Nat.le_of_not_lt hcontrol)

/-- A string is written between quotes. -/
theorem isQuoted_stringText (s : Option String) : IsQuoted s (Json.stringText s) := by
  cases s with
  | some s =>
    refine ⟨s.toList.map Char.toNat, s.toList.map Json.escapedChar, ?_, ?_, codes_map_toNat _⟩
    · rw [List.forall₂_map_left_iff, List.forall₂_map_right_iff, List.forall₂_same]
      exact fun c _ => isUnitText_escapedChar c
    · rw [← List.flatMap_def]
      rfl
  | none =>
    refine ⟨[0xD800], [['\\', 'u', 'd', '8', '0', '0']], .cons (.digits rfl) .nil, rfl, ?_⟩
    intro chars hcodes
    cases joinPairs_eq_some_iff.mpr hcodes

/-! ## Tokens -/

/-- Some characters spell some tokens, if what is behind them does not go on with a number. -/
def Spells (cs : List Char) (tokens : List JsonToken) : Prop :=
  ∀ rest, Stops rest → ofChars? (cs ++ rest) = (ofChars? rest).map (tokens ++ ·)

theorem ofChars?_of_isBlank {c : Char} (h : isBlank c = true) (cs : List Char) :
    ofChars? (c :: cs) = ofChars? cs := by
  rw [ofChars?, if_pos h]

/-- A token that is read at the front of a text is its first. -/
theorem ofChars?_of_next? {cs behind : List Char} {token : JsonToken}
    (h : next? cs = some (token, behind)) :
    ofChars? cs = (ofChars? behind).map (token :: ·) := by
  cases cs with
  | nil => cases h
  | cons c cs =>
    have hblank : ¬isBlank c = true := by
      intro hc
      simp only [isBlank, Bool.or_eq_true, decide_eq_true_eq] at hc
      rcases hc with ((rfl | rfl) | rfl) | rfl <;> cases h
    rw [ofChars?, if_neg hblank]
    split
    · next hnone =>
      rw [h] at hnone
      cases hnone
    · next hsome =>
      rw [h] at hsome
      cases hsome
      rfl

/-- What is read as a number is the token of a number. -/
theorem next?_of_number? {cs ds behind : List Char} (h : number? cs = some (ds, behind)) :
    next? cs = some (.number (String.ofList ds), behind) := by
  unfold next?
  split
  iterate 10
    · cases h
  rw [h]
  rfl

theorem spells_nil : Spells [] [] := fun _ _ => Option.map_id'.symm

/-- One spelling after the other, unless the first may go on with the second. -/
theorem Spells.append {cs cs' : List Char} {tokens tokens' : List JsonToken}
    (h : Spells cs tokens) (h' : Spells cs' tokens') (hstops : Stops cs') :
    Spells (cs ++ cs') (tokens ++ tokens') := by
  intro rest hrest
  rw [List.append_assoc, h _ (hstops.append hrest), h' rest hrest, Option.map_map]
  exact congrArg (Option.map · _) (funext fun _ => (List.append_assoc _ _ _).symm)

/-- A token that ends by itself before others. -/
theorem Spells.token {front cs : List Char} {token : JsonToken} {tokens : List JsonToken}
    (hfront : ∀ rest, next? (front ++ rest) = some (token, rest)) (h : Spells cs tokens) :
    Spells (front ++ cs) (token :: tokens) := by
  intro rest hrest
  rw [List.append_assoc, ofChars?_of_next? (hfront _), h rest hrest, Option.map_map]
  rfl

theorem Spells.char {c : Char} {cs : List Char} {token : JsonToken} {tokens : List JsonToken}
    (hc : ∀ rest, next? (c :: rest) = some (token, rest)) (h : Spells cs tokens) :
    Spells (c :: cs) (token :: tokens) :=
  @Spells.token [c] cs token tokens hc h

/-- A token that ends by itself. -/
theorem spells_word {word : List Char} {token : JsonToken}
    (h : ∀ rest, next? (word ++ rest) = some (token, rest)) : Spells word [token] := by
  have hword := Spells.token h spells_nil
  rwa [List.append_nil] at hword

/-- Blanks before tokens. -/
theorem Spells.blanks {front cs : List Char} {tokens : List JsonToken}
    (hfront : ∀ c ∈ front, isBlank c = true) (h : Spells cs tokens) :
    Spells (front ++ cs) tokens := by
  intro rest hrest
  induction front with
  | nil => exact h rest hrest
  | cons c front ih =>
    obtain ⟨hc, hfront⟩ := List.forall_mem_cons.mp hfront
    rw [List.cons_append, List.cons_append, ofChars?_of_isBlank hc]
    exact ih hfront

theorem spells_number {spelling : String}
    (h : number? spelling.toList = some (spelling.toList, [])) :
    Spells spelling.toList [.number spelling] := by
  intro rest hrest
  have hnumber := number?_readsOn _ _ _ rest h hrest
  rw [List.nil_append] at hnumber
  rw [ofChars?_of_next? (next?_of_number? hnumber), String.ofList_toList]
  rfl

/-- A string is a token that ends by itself. -/
theorem next?_of_isQuoted {s : Option String} {cs : List Char} (h : IsQuoted s cs)
    (rest : List Char) : next? (cs ++ rest) = some (.string s, rest) := by
  obtain ⟨units, texts, htexts, rfl, hcodes⟩ := h
  have hs : (joinPairs units).map String.ofList = s := by
    cases s with
    | some s => rw [joinPairs_eq_some_iff.mpr hcodes, Option.map_some, String.ofList_toList]
    | none =>
      rw [Option.map_eq_none_iff, Option.eq_none_iff_forall_ne_some]
      exact fun chars hchars => hcodes chars (joinPairs_eq_some_iff.mp hchars)
  show (readString ((texts.flatten ++ ['"']) ++ rest)).map _ = _
  rw [List.append_assoc, List.singleton_append, readString_of_areUnitTexts htexts,
    Option.map_some, mapRead, hs]

end StartOrder.JsonToken
