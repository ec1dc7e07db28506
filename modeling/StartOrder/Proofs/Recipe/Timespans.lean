import StartOrder.Proofs.Text.Blanks
import StartOrder.Proofs.Yaml.Decimal
import StartOrder.Recipe.Timespan

/-!
# Spans of time as they are spelled

A span is spelled by decimal digits and the suffix of a unit or none, with white space around them.
`Spells` states just that, with the suffixes, the factors and the characters of white space written
out (`suffixOf`, `factorOf`, `Text.whiteSpace`), and `ofText?_iff_spells` compares the reader with
it: a text is read if and only if it spells a number of units whose milliseconds fit into a word,
and then as that many.

There are two obstacles. The suffixes overlap, since `ms` ends in the suffix of seconds, so that it
matters in which order they are looked for. But a digit is no letter, and the first suffix that is
found is the only one that leaves digits before it (`stripSuffix?_append`, `splitUnit_append`). And
all arithmetic is done in words. That it is exact or fails is shown for each operation
(`Number.Word.add?_eq_some_iff`, `Number.Word.mul?_eq_some_iff`) and then for the reading of digits,
where no step on the way can go beyond a number that fits in the end
(`Number.Word.spelledFrom?_eq_some_iff`).
-/

namespace StartOrder

/-! ## Words are exact -/

namespace Number.Word

/-- A word that is given only where a number fits, and has its value there, is the word of that
number. -/
theorem ite_eq_some_iff {n : Nat} {v w : UInt64} (hv : n < UInt64.size → v.toNat = n) :
    (if n < UInt64.size then some v else none) = some w ↔ w.toNat = n := by
  by_cases hfits : n < UInt64.size
  · rw [if_pos hfits, Option.some_inj, ← UInt64.toNat_inj, hv hfits]
    exact eq_comm
  · rw [if_neg hfits]
    exact iff_of_false nofun fun heq => hfits (heq ▸ w.toNat_lt_size)

theorem add?_eq_some_iff {a b w : UInt64} : add? a b = some w ↔ w.toNat = a.toNat + b.toNat :=
  ite_eq_some_iff fun hfits => by rw [UInt64.toNat_add, Nat.mod_eq_of_lt hfits]

theorem mul?_eq_some_iff {a b w : UInt64} : mul? a b = some w ↔ w.toNat = a.toNat * b.toNat :=
  ite_eq_some_iff fun hfits => by rw [UInt64.toNat_mul, Nat.mod_eq_of_lt hfits]

/-- A number does not get smaller when digits are put behind it. -/
theorem le_ofDigitChars (cs : List Char) (n : Nat) : n ≤ Nat.ofDigitChars 10 cs n := by
  induction cs generalizing n with
  | nil => exact Nat.le_refl n
  | cons c rest ih =>
    rw [Nat.ofDigitChars_cons]
    exact Nat.le_trans (by omega) (ih _)

/-- A digit is put behind those read so far, if the number fits. -/
theorem bind_add?_eq_some_iff {acc next : UInt64} {digit : Nat} (hdigit : digit < 10) :
    ((mul? acc 10).bind fun shifted => add? shifted (UInt64.ofNat digit)) = some next ↔
      next.toNat = 10 * acc.toNat + digit := by
  have hsmall : (UInt64.ofNat digit).toNat = digit :=
    UInt64.toNat_ofNat_of_lt' (Nat.lt_trans hdigit (by decide))
  constructor
  · intro h
    obtain ⟨shifted, hshifted, hnext⟩ := Option.bind_eq_some_iff.mp h
    rw [mul?_eq_some_iff] at hshifted
    rw [add?_eq_some_iff, hshifted, hsmall] at hnext
    rw [hnext, Nat.mul_comm]
    rfl
  · intro h
    have hfits : 10 * acc.toNat < UInt64.size :=
      Nat.lt_of_le_of_lt (h ▸ Nat.le_add_right _ _) next.toNat_lt_size
    have hshifted : mul? acc 10 = some (UInt64.ofNat (10 * acc.toNat)) := by
      rw [mul?_eq_some_iff, UInt64.toNat_ofNat_of_lt' hfits, Nat.mul_comm]
      rfl
    rw [hshifted, Option.bind_some, add?_eq_some_iff, UInt64.toNat_ofNat_of_lt' hfits, hsmall, h]

/-- Digits are read as the number that they spell, if it fits: no step on the way goes beyond it. -/
theorem spelledFrom?_eq_some_iff {cs : List Char} (h : ∀ c ∈ cs, c.isDigit) {acc w : UInt64} :
    spelledFrom? acc cs = some w ↔ w.toNat = Nat.ofDigitChars 10 cs acc.toNat := by
  induction cs generalizing acc with
  | nil =>
    rw [spelledFrom?, Option.some_inj, ← UInt64.toNat_inj]
    exact eq_comm
  | cons c rest ih =>
    obtain ⟨hc, hrest⟩ := List.forall_mem_cons.mp h
    have hdigit : c.toNat - '0'.toNat < 10 := by
      have hrange := Yaml.toNat_of_isDigit hc
      have hzero : '0'.toNat = 0x30 := rfl
      omega
    rw [spelledFrom?, Yaml.digitValue?_of_isDigit hc, Option.bind_some, Nat.ofDigitChars_cons,
      ← Option.bind_assoc]
    constructor
    · intro hread
      obtain ⟨next, hnext, hread⟩ := Option.bind_eq_some_iff.mp hread
      rwa [ih hrest, (bind_add?_eq_some_iff hdigit).mp hnext] at hread
    · intro hw
      -- the whole number fits, so what is read of it so far does
      have hnext := UInt64.toNat_ofNat_of_lt'
        (Nat.lt_of_le_of_lt (hw ▸ le_ofDigitChars rest _) w.toNat_lt_size)
      exact Option.bind_eq_some_iff.mpr ⟨_, (bind_add?_eq_some_iff hdigit).mpr hnext,
        (ih hrest).mpr (hnext.symm ▸ hw)⟩

theorem spelled?_eq_some_iff {cs : List Char} (hne : cs ≠ []) (h : ∀ c ∈ cs, c.isDigit)
    {w : UInt64} : spelled? cs = some w ↔ w.toNat = Nat.ofDigitChars 10 cs 0 := by
  rw [← show (0 : UInt64).toNat = 0 from rfl, ← spelledFrom?_eq_some_iff h]
  unfold spelled?
  split
  · exact absurd (h '+' List.mem_cons_self) (by decide)
  · simp [hne]

end Number.Word

/-! ## Digits and suffixes -/

namespace Timespan

/-- What is written behind the digits for a unit that is named, and nothing for none. -/
def suffixOf : Option TimeUnit → List Char
  | none => []
  | some .milliseconds => ['m', 's']
  | some .seconds => ['s']
  | some .minutes => ['m']
  | some .hours => ['h']

/-- The number of milliseconds in a unit. Where none is named, seconds are meant. -/
def factorOf : Option TimeUnit → Nat
  | none => 1000
  | some .milliseconds => 1
  | some .seconds => 1000
  | some .minutes => 60000
  | some .hours => 3600000

/-- A text spells a number of units: decimal digits and the suffix of a unit or none, with white
space around them. -/
structure Spells (text : String) (digits : List Char) (unit : Option TimeUnit) : Prop where
  ne_nil : digits ≠ []
  isDigit : ∀ c ∈ digits, c.isDigit
  blanks : ∃ front back, text.toList = front ++ (digits ++ suffixOf unit) ++ back ∧
    (∀ c ∈ front, c.toNat ∈ Text.whiteSpace) ∧ ∀ c ∈ back, c.toNat ∈ Text.whiteSpace

/-- The milliseconds in a number of units. -/
def length (digits : List Char) (unit : Option TimeUnit) : Nat :=
  Nat.ofDigitChars 10 digits 0 * factorOf unit

/-! The table that the reader searches has these suffixes and these numbers. -/

theorem suffixOf_some (u : TimeUnit) : suffixOf (some u) = u.suffix := by
  cases u <;> rfl

theorem factorOf_eq (unit : Option TimeUnit) :
    factorOf unit = (unit.getD .seconds).millis.toNat := by
  rcases unit with _ | _ | _ | _ | _ <;> rfl

theorem factorOf_pos (unit : Option TimeUnit) : 0 < factorOf unit := by
  rcases unit with _ | _ | _ | _ | _ <;> decide

theorem stripSuffix?_eq_some_iff {suffix cs rest : List Char} :
    stripSuffix? suffix cs = some rest ↔ cs = rest ++ suffix := by
  unfold stripSuffix?
  constructor
  · intro h
    split at h
    · next hsuffix =>
      obtain ⟨before, rfl⟩ := List.isSuffixOf_iff_suffix.mp hsuffix
      rw [List.length_append, Nat.add_sub_cancel, List.take_left, Option.some_inj] at h
      rw [h]
    · cases h
  · rintro rfl
    rw [if_pos (List.isSuffixOf_iff_suffix.mpr (List.suffix_append _ _)), List.length_append,
      Nat.add_sub_cancel, List.take_left]

/-- A suffix is found behind digits if it is that of their unit. Seconds behind digits and the
suffix of milliseconds would be found too, were they looked for first. -/
theorem stripSuffix?_append {digits : List Char} (hne : digits ≠ [])
    (hdigits : ∀ c ∈ digits, c.isDigit) {u : TimeUnit} {unit : Option TimeUnit}
    (hother : ¬(u = .seconds ∧ unit = some .milliseconds)) :
    stripSuffix? u.suffix (digits ++ suffixOf unit) =
      if unit = some u then some digits else none := by
  by_cases hunit : unit = some u
  · subst hunit
    rw [if_pos rfl, stripSuffix?_eq_some_iff, suffixOf_some]
  · rw [if_neg hunit]
    obtain ⟨before, last, rfl⟩ := (List.eq_nil_or_concat' digits).resolve_left hne
    have hlast : last.isDigit := hdigits last (by simp)
    have hletters : 'm' ≠ last ∧ 's' ≠ last ∧ 'h' ≠ last := by
      refine ⟨?_, ?_, ?_⟩ <;> rintro rfl <;> exact absurd hlast (by decide)
    -- a suffix of one letter differs from what stands there in the last character, that of
    -- milliseconds in the last but one
    refine if_neg fun hsuffix => ?_
    cases u <;> rcases unit with _ | _ | _ | _ | _ <;>
      simp_all [List.isSuffixOf, TimeUnit.suffix, suffixOf]

/-- The unit behind digits is found. -/
theorem splitUnit_append {digits : List Char} (hne : digits ≠ [])
    (hdigits : ∀ c ∈ digits, c.isDigit) (unit : Option TimeUnit) :
    splitUnit (digits ++ suffixOf unit) = (digits, unit.getD .seconds) := by
  have hstrip (u : TimeUnit) (h : ¬(u = .seconds ∧ unit = some .milliseconds)) :=
    stripSuffix?_append hne hdigits h
  unfold splitUnit TimeUnit.all
  cases unit with
  | none =>
    have hnone (u : TimeUnit) : stripSuffix? u.suffix (digits ++ suffixOf none) = none :=
      (hstrip u nofun).trans (if_neg nofun)
    simp only [List.findSome?_cons, hnone, Option.map_none, List.findSome?_nil, Option.getD_none]
    rw [suffixOf, List.append_nil]
  | some v => cases v <;> simp [hstrip]

/-- What is found behind a text is the suffix of a unit or nothing. -/
theorem exists_suffix_of_splitUnit {cs amount : List Char} {u : TimeUnit}
    (h : splitUnit cs = (amount, u)) :
    ∃ unit : Option TimeUnit, cs = amount ++ suffixOf unit ∧ u = unit.getD .seconds := by
  unfold splitUnit at h
  cases hfound : TimeUnit.all.findSome? fun u => (stripSuffix? u.suffix cs).map (·, u) with
  | none =>
    rw [hfound] at h
    cases h
    exact ⟨none, (List.append_nil cs).symm, rfl⟩
  | some found =>
    rw [hfound, Option.getD_some] at h
    subst h
    obtain ⟨v, -, hv⟩ := List.exists_of_findSome?_eq_some hfound
    obtain ⟨rest, hrest, heq⟩ := Option.map_eq_some_iff.mp hv
    cases heq
    refine ⟨some u, ?_, rfl⟩
    rw [suffixOf_some]
    exact stripSuffix?_eq_some_iff.mp hrest

/-! ## Spans -/

theorem suffixOf_injective : Function.Injective suffixOf := by
  intro a b hab
  rcases a with _ | _ | _ | _ | _ <;> rcases b with _ | _ | _ | _ | _ <;>
    first | rfl | exact absurd hab (by decide)

namespace Spells

variable {text : String} {digits : List Char} {unit : Option TimeUnit}

/-- What is spelled is what is left of the text without its blanks. -/
theorem trimChars_eq (h : Spells text digits unit) :
    Text.trimChars text.toList = digits ++ suffixOf unit := by
  obtain ⟨front, back, htext, hfront, hback⟩ := h.blanks
  have hnotBlank {c : Char} (hc : c.isDigit) : Text.isBlank c = false := by
    have hrange := Yaml.toNat_of_isDigit hc
    simp [Text.isBlank]
    omega
  obtain ⟨first, rest, hfirst⟩ := List.exists_cons_of_ne_nil h.ne_nil
  -- the first character is a digit; the last one is a digit, too, or the letter of a suffix
  have hend : ∃ last, (digits ++ suffixOf unit).getLast? = some last ∧
      Text.isBlank last = false := by
    cases unit with
    | none =>
      obtain ⟨before, last, rfl⟩ := (List.eq_nil_or_concat' digits).resolve_left h.ne_nil
      exact ⟨last, by simp [suffixOf], hnotBlank (h.isDigit last (by simp))⟩
    | some u => cases u <;> exact ⟨_, by simp [suffixOf]; rfl, by decide⟩
  obtain ⟨last, hlast, hnotLast⟩ := hend
  rw [htext]
  exact Text.trimChars_append (fun c hc => Text.isBlank_iff.mpr (hfront c hc))
    (fun c hc => Text.isBlank_iff.mpr (hback c hc))
    (hnotBlank (h.isDigit first (hfirst ▸ List.mem_cons_self))) hnotLast (by simp [hfirst]) hlast

/-- A text spells one thing. -/
theorem unique (h : Spells text digits unit) {digits' : List Char} {unit' : Option TimeUnit}
    (h' : Spells text digits' unit') : digits' = digits ∧ unit' = unit := by
  have htrimmed : digits' ++ suffixOf unit' = digits ++ suffixOf unit :=
    h'.trimChars_eq.symm.trans h.trimChars_eq
  have hsplit := splitUnit_append h'.ne_nil h'.isDigit unit'
  rw [htrimmed, splitUnit_append h.ne_nil h.isDigit] at hsplit
  have hdigits : digits' = digits := (congrArg Prod.fst hsplit).symm
  subst hdigits
  exact ⟨rfl, suffixOf_injective (List.append_cancel_left htrimmed)⟩

/-- Digits and a suffix may be written without blanks, and with zeros before the digits. -/
theorem ofList_replicate_zero (h : Spells text digits unit) (k : Nat) :
    Spells (String.ofList (List.replicate k '0' ++ digits ++ suffixOf unit))
      (List.replicate k '0' ++ digits) unit where
  ne_nil := List.append_ne_nil_of_right_ne_nil _ h.ne_nil
  isDigit c hc := by
    rcases List.mem_append.mp hc with hzero | hdigit
    · rw [List.eq_of_mem_replicate hzero]
      rfl
    · exact h.isDigit c hdigit
  blanks := ⟨[], [], by simp, nofun, nofun⟩

/-- What a text spells, by tests that can be run. -/
theorem of_all (front back : List Char)
    (htext : text.toList = front ++ (digits ++ suffixOf unit) ++ back)
    (hdigits : (!digits.isEmpty && digits.all Char.isDigit) = true)
    (hblanks : ((front ++ back).all fun c => Text.whiteSpace.contains c.toNat) = true) :
    Spells text digits unit := by
  rw [Bool.and_eq_true, Bool.not_eq_true', List.all_eq_true] at hdigits
  rw [List.all_append, Bool.and_eq_true, List.all_eq_true, List.all_eq_true] at hblanks
  exact {
    ne_nil := List.isEmpty_eq_false_iff.mp hdigits.1
    isDigit := hdigits.2
    blanks := ⟨front, back, htext, fun c hc => List.contains_iff_mem.mp (hblanks.1 c hc),
      fun c hc => List.contains_iff_mem.mp (hblanks.2 c hc)⟩ }

end Spells

theorem length_replicate_zero (k : Nat) (digits : List Char) (unit : Option TimeUnit) :
    length (List.replicate k '0' ++ digits) unit = length digits unit := by
  unfold length
  rw [Nat.ofDigitChars_append, Nat.ofDigitChars_replicate_zero, Nat.mul_zero]

/-- A number of units is counted in milliseconds exactly if they fit. -/
theorem bind_ofUnits?_eq_some_iff {digits : List Char} (hne : digits ≠ [])
    (hdigits : ∀ c ∈ digits, c.isDigit) {unit : Option TimeUnit} {t : Timespan} :
    (Number.Word.spelled? digits).bind (ofUnits? · (unit.getD .seconds)) = some t ↔
      t.millis.toNat = length digits unit := by
  unfold length ofUnits?
  constructor
  · intro h
    obtain ⟨w, hw, h⟩ := Option.bind_eq_some_iff.mp h
    obtain ⟨millis, hmillis, rfl⟩ := Option.map_eq_some_iff.mp h
    rw [Number.Word.spelled?_eq_some_iff hne hdigits] at hw
    rwa [Number.Word.mul?_eq_some_iff, hw, ← factorOf_eq] at hmillis
  · intro h
    -- the number of units is no larger than that of milliseconds, so it fits too
    have hfits : Nat.ofDigitChars 10 digits 0 < UInt64.size :=
      Nat.lt_of_le_of_lt (Nat.le_mul_of_pos_right _ (factorOf_pos unit))
        (h ▸ t.millis.toNat_lt_size)
    have hw : Number.Word.spelled? digits =
        some (UInt64.ofNat (Nat.ofDigitChars 10 digits 0)) :=
      (Number.Word.spelled?_eq_some_iff hne hdigits).mpr (UInt64.toNat_ofNat_of_lt' hfits)
    have hmillis : Number.Word.mul? (UInt64.ofNat (Nat.ofDigitChars 10 digits 0))
        (unit.getD .seconds).millis = some t.millis := by
      rw [Number.Word.mul?_eq_some_iff, UInt64.toNat_ofNat_of_lt' hfits, ← factorOf_eq]
      exact h
    rw [hw, Option.bind_some, hmillis]
    rfl

/-- A text is read as the span that it spells. -/
theorem ofText?_eq_some_iff {text : String} {t : Timespan} : ofText? text = some t ↔
    ∃ digits unit, Spells text digits unit ∧ t.millis.toNat = length digits unit := by
  unfold ofText?
  constructor
  · intro h
    cases hsplit : splitUnit (Text.trimChars text.toList) with
    | mk digits u =>
    rw [hsplit] at h
    dsimp only at h
    split at h
    · cases h
    · next hdigits =>
      simp only [Bool.or_eq_true, List.isEmpty_iff, Bool.not_eq_true', not_or,
        Bool.not_eq_false, List.all_eq_true] at hdigits
      obtain ⟨unit, htrimmed, rfl⟩ := exists_suffix_of_splitUnit hsplit
      obtain ⟨front, back, htext, hfront, hback⟩ := Text.exists_blanks text.toList
      rw [htrimmed] at htext
      exact ⟨digits, unit, ⟨hdigits.1, hdigits.2, front, back, htext,
          fun c hc => Text.isBlank_iff.mp (hfront c hc),
          fun c hc => Text.isBlank_iff.mp (hback c hc)⟩,
        (bind_ofUnits?_eq_some_iff hdigits.1 hdigits.2).mp h⟩
  · rintro ⟨digits, unit, hspells, ht⟩
    rw [hspells.trimChars_eq, splitUnit_append hspells.ne_nil hspells.isDigit]
    have hdigits : (digits.isEmpty || !digits.all Char.isDigit) = false := by
      simpa [hspells.ne_nil] using hspells.isDigit
    dsimp only
    rw [hdigits]
    exact (bind_ofUnits?_eq_some_iff hspells.ne_nil hspells.isDigit).mpr ht

example : ofText? "+7s" = none ∧ ofText? "7 s" = none ∧ ofText? "ms" = none := by decide +kernel

/-- **A text is read exactly if it spells a number of units that fits into 64 bits when it is
counted in milliseconds, and then as that many milliseconds.** A text spells one thing only, and
zeros before its digits make no difference. -/
theorem ofText?_iff_spells (text : String) :
    (∀ t, ofText? text = some t ↔
      ∃ digits unit, Spells text digits unit ∧ t.millis.toNat = length digits unit) ∧
    ((ofText? text).isSome ↔
      ∃ digits unit, Spells text digits unit ∧ length digits unit < UInt64.size) ∧
    ∀ digits unit, Spells text digits unit →
      (∀ digits' unit', Spells text digits' unit' → digits' = digits ∧ unit' = unit) ∧
      ∀ k, ofText? (String.ofList (List.replicate k '0' ++ digits ++ suffixOf unit)) =
        ofText? text := by
  refine ⟨fun t => ofText?_eq_some_iff, ?_, fun digits unit h => ⟨fun _ _ h' => h.unique h', ?_⟩⟩
  · constructor
    · intro h
      obtain ⟨t, ht⟩ := Option.isSome_iff_exists.mp h
      obtain ⟨digits, unit, hspells, hlength⟩ := ofText?_eq_some_iff.mp ht
      exact ⟨digits, unit, hspells, hlength ▸ t.millis.toNat_lt_size⟩
    · rintro ⟨digits, unit, hspells, hlength⟩
      refine Option.isSome_iff_exists.mpr ⟨⟨UInt64.ofNat (length digits unit)⟩, ?_⟩
      exact ofText?_eq_some_iff.mpr ⟨digits, unit, hspells, UInt64.toNat_ofNat_of_lt' hlength⟩
  · intro k
    have hpadded := h.ofList_replicate_zero k
    refine Option.ext fun t => ?_
    rw [ofText?_eq_some_iff, ofText?_eq_some_iff]
    constructor
    · rintro ⟨digits', unit', h', ht⟩
      obtain ⟨rfl, rfl⟩ := hpadded.unique h'
      exact ⟨digits, unit', h, ht.trans (length_replicate_zero k digits unit')⟩
    · rintro ⟨digits', unit', h', ht⟩
      obtain ⟨rfl, rfl⟩ := h.unique h'
      exact ⟨_, unit', hpadded, ht.trans (length_replicate_zero k digits' unit').symm⟩

/-- Each unit by its suffix, seconds by none as well, and the most milliseconds that there can be:
one more is no span. -/
theorem ofText?_of_each_unit :
    ofText? " 007ms\n" = some ⟨7⟩ ∧ ofText? "2s" = some ⟨2000⟩ ∧ ofText? "3m" = some ⟨180000⟩ ∧
      ofText? "01h" = some ⟨3600000⟩ ∧ ofText? "\u3000 30\t" = some ⟨30000⟩ ∧
      ofText? "18446744073709551615ms" = some ⟨18446744073709551615⟩ ∧
      ofText? "18446744073709551616ms" = none := by
  have hread (text : String) (digits : List Char) (unit : Option TimeUnit) (millis : UInt64)
      (hspells : Spells text digits unit) (hlength : millis.toNat = length digits unit) :
      ofText? text = some ⟨millis⟩ :=
    ((ofText?_iff_spells text).1 ⟨millis⟩).mpr ⟨digits, unit, hspells, hlength⟩
  refine ⟨?_, ?_, ?_, ?_, ?_, ?_, ?_⟩
  · exact hread _ ['0', '0', '7'] (some .milliseconds) 7 (.of_all [' '] ['\n'] rfl rfl rfl) rfl
  · exact hread _ ['2'] (some .seconds) 2000 (.of_all [] [] rfl rfl rfl) rfl
  · exact hread _ ['3'] (some .minutes) 180000 (.of_all [] [] rfl rfl rfl) rfl
  · exact hread _ ['0', '1'] (some .hours) 3600000 (.of_all [] [] rfl rfl rfl) rfl
  · exact hread _ ['3', '0'] none 30000 (.of_all ['\u3000', ' '] ['\t'] rfl rfl rfl) rfl
  · exact hread _ "18446744073709551615".toList (some .milliseconds) 18446744073709551615
      (.of_all [] [] rfl rfl rfl) rfl
  · -- the text spells a number of milliseconds and nothing else, and that is too large
    have hspells : Spells "18446744073709551616ms" "18446744073709551616".toList
        (some .milliseconds) := .of_all [] [] rfl rfl rfl
    obtain ⟨-, hsome, hunique⟩ := ofText?_iff_spells "18446744073709551616ms"
    refine Option.not_isSome_iff_eq_none.mp fun h => ?_
    obtain ⟨digits, unit, hother, hsmall⟩ := hsome.mp h
    obtain ⟨rfl, rfl⟩ := (hunique _ _ hspells).1 digits unit hother
    exact absurd hsmall (by decide)

end Timespan

end StartOrder
