/-!
# Punycode

Labels of domain names that are not in ASCII are written with letters and digits: first the ASCII
characters, then, behind a hyphen, where the others are inserted and which they are. The insertions
are in ascending order of the characters, each as the number of states that are passed over since
the one before, in digits of base 36 whose weights depend on a running bias.

- `Punycode.encode`: a label in ASCII.
- `Punycode.decode?`: the label that a text in ASCII stands for.
-/

namespace StartOrder.Url.Punycode

/-! ## Digits -/

/-- A digit of base 36: the letters, then the figures. -/
def digit (n : Nat) : Char :=
  if n < 26 then Char.ofNat (n + 'a'.toNat) else Char.ofNat (n - 26 + '0'.toNat)

/-- The value of a digit of base 36. -/
def digitValue? (c : Char) : Option Nat :=
  if 'a' ≤ c ∧ c ≤ 'z' then some (c.toNat - 'a'.toNat)
  else if 'A' ≤ c ∧ c ≤ 'Z' then some (c.toNat - 'A'.toNat)
  else if '0' ≤ c ∧ c ≤ '9' then some (c.toNat - '0'.toNat + 26)
  else none

/-- The least digit that is followed by another one, at a position that counts up in steps of 36. -/
def threshold (position bias : Nat) : Nat := min 26 (max 1 (position - bias))

theorem one_le_threshold (position bias : Nat) : 1 ≤ threshold position bias := by
  unfold threshold
  omega

/-- How many times a number is divided by 35 until it is at most 455, and what is left of it. -/
def scaleDown (n : Nat) : Nat × Nat :=
  if 455 < n then
    let (times, left) := scaleDown (n / 35)
    (times + 1, left)
  else (0, n)

/-- The bias behind an insertion, given its number and the number of characters then present. -/
def nextBias (delta present : Nat) (isFirst : Bool) : Nat :=
  let delta := if isFirst then delta / 700 else delta / 2
  let (times, left) := scaleDown (delta + delta / present)
  36 * times + 36 * left / (left + 38)

/-- A number in digits, from a position on. -/
def digits (bias position n : Nat) : List Char :=
  let t := threshold position bias
  if n < t then [digit n]
  else digit (t + (n - t) % (36 - t)) :: digits bias (position + 36) ((n - t) / (36 - t))
termination_by n
decreasing_by
  have := one_le_threshold position bias
  exact Nat.lt_of_le_of_lt (Nat.div_le_self _ _) (by omega)

/-- Read a number in digits, from a position on and with a weight. Gives the number and what is
behind it. -/
def readDigits (bias position weight : Nat) : List Char → Option (Nat × List Char)
  | [] => none
  | c :: rest => (digitValue? c).bind fun d =>
    let t := threshold position bias
    if d < t then some (d * weight, rest)
    else
      (readDigits bias (position + 36) (weight * (36 - t)) rest).map fun (n, behind) =>
        (d * weight + n, behind)

theorem length_readDigits_lt {bias position weight n : Nat} {cs behind : List Char}
    (h : readDigits bias position weight cs = some (n, behind)) : behind.length < cs.length := by
  induction cs generalizing position weight n behind with
  | nil => simp [readDigits] at h
  | cons c rest ih =>
    simp only [readDigits, Option.bind_eq_some_iff] at h
    obtain ⟨d, -, h⟩ := h
    split at h
    · simp only [Option.some.injEq, Prod.mk.injEq] at h
      simp [← h.2]
    · obtain ⟨⟨m, b⟩, hr, h⟩ := Option.map_eq_some_iff.mp h
      have := ih hr
      simp only [Prod.mk.injEq] at h
      simp only [List.length_cons, ← h.2]
      omega

/-! ## Labels -/

/-- How far a label is written. -/
structure Progress where
  /-- The insertions written so far. -/
  written : List Char := []
  /-- The states passed over since the last insertion. -/
  delta : Nat := 0
  bias : Nat := 72
  /-- The number of characters written, and whether the next insertion is the first. -/
  present : Nat
  isFirst : Bool := true

/-- Pass a character of a label while those with a code point are inserted. -/
def Progress.pass (p : Progress) (code : Nat) (c : Char) : Progress :=
  if c.toNat < code then { p with delta := p.delta + 1 }
  else if c.toNat = code then
    { written := p.written ++ digits p.bias 36 p.delta
      delta := 0
      bias := nextBias p.delta (p.present + 1) p.isFirst
      present := p.present + 1
      isFirst := false }
  else p

/-- Insert the characters of a label with each of some code points, in ascending order. -/
def Progress.insertAll (label : List Char) (least : Nat) (p : Progress) : List Nat → Progress
  | [] => p
  | code :: rest =>
    let p := { p with delta := p.delta + (code - least) * (p.present + 1) }
    let p := label.foldl (fun p c => p.pass code c) p
    insertAll label (code + 1) { p with delta := p.delta + 1 } rest

/-- A label in ASCII, without the mark that says so. -/
def encode (label : List Char) : List Char :=
  let basic := label.filter fun c => c.toNat < 0x80
  let codes := ((label.filter fun c => 0x80 ≤ c.toNat).map Char.toNat).mergeSort
  let distinct := (codes.splitBy (· == ·)).filterMap List.head?
  let p := Progress.insertAll label 0x80 { present := basic.length } distinct
  basic ++ (if basic.isEmpty then [] else ['-']) ++ p.written

/-- Read insertions into the characters read so far. -/
def insertRead (code index bias : Nat) (label : List Char) (isFirst : Bool) (cs : List Char) :
    Option (List Char) :=
  match cs with
  | [] => some label
  | c :: rest => match _h : readDigits bias 36 1 (c :: rest) with
    | none => none
    | some (n, behind) =>
      let present := label.length + 1
      let state := index + n
      let code := code + state / present
      let index := state % present
      if code.isValidChar && code < 0x110000 then
        insertRead code (index + 1) (nextBias n present isFirst)
          (label.take index ++ Char.ofNat code :: label.drop index) false behind
      else none
termination_by cs.length
decreasing_by exact length_readDigits_lt _h

/-- The label that a text in ASCII stands for, without the mark that says so. A hyphen with nothing
before it divides nothing. -/
def decode? (text : List Char) : Option (List Char) :=
  if text.any fun c => 0x80 ≤ c.toNat then none
  else
    let behind := (text.reverse.takeWhile (· ≠ '-')).reverse
    let basic := text.take (text.length - behind.length - 1)
    insertRead 0x80 0 72 basic true (if basic.isEmpty then text else behind)

end StartOrder.Url.Punycode
