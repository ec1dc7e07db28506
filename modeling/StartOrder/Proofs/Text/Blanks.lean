import Mathlib.Data.List.TakeWhile
import StartOrder.Text.Blank

/-!
# Blanks at both ends

What is left of a text when the blanks around it are cut off. Blanks are the characters with the
Unicode property `White_Space`, which `whiteSpace` lists one by one (`isBlank_iff`). Nothing else is
cut off (`exists_blanks`), and all that is put around a text is (`trimChars_append_of_isBlank`),
even if the text has blanks at its own ends.

Cutting blanks off commutes with lower case, for no letter is blank in either case.
-/

namespace StartOrder.Text

variable {front back : List Char}

/-! ## Which characters are blank -/

/-- The code points that the Unicode property `White_Space` lists, one by one. -/
def whiteSpace : List Nat :=
  [0x9, 0xA, 0xB, 0xC, 0xD, 0x20, 0x85, 0xA0, 0x1680, 0x2000, 0x2001, 0x2002, 0x2003, 0x2004,
    0x2005, 0x2006, 0x2007, 0x2008, 0x2009, 0x200A, 0x2028, 0x2029, 0x202F, 0x205F, 0x3000]

theorem isBlank_iff {c : Char} : isBlank c = true ↔ c.toNat ∈ whiteSpace := by
  simp only [isBlank, whiteSpace, Bool.or_eq_true, Bool.and_eq_true, decide_eq_true_eq, beq_iff_eq,
    List.mem_cons, List.not_mem_nil, or_false]
  omega

/-! ## Cutting blanks off -/

theorem trimFront_append_of_isBlank (h : ∀ c ∈ front, isBlank c) (cs : List Char) :
    trimFront (front ++ cs) = trimFront cs :=
  List.dropWhile_append_of_pos h

/-- Blanks around a text make no difference. -/
theorem trimChars_append_of_isBlank (hfront : ∀ c ∈ front, isBlank c)
    (hback : ∀ c ∈ back, isBlank c) (cs : List Char) :
    trimChars (front ++ cs ++ back) = trimChars cs := by
  have hreverse : ∀ c ∈ back.reverse, isBlank c := fun c hc => hback c (List.mem_reverse.mp hc)
  rw [List.append_assoc, trimChars, trimFront_append_of_isBlank hfront, trimChars]
  by_cases hcs : trimFront cs = []
  · -- there is nothing but blanks
    have hall : ∀ c ∈ cs ++ back, isBlank c := fun c hc =>
      (List.mem_append.mp hc).elim (List.dropWhile_eq_nil_iff.mp hcs c) (hback c)
    rw [hcs, show trimFront (cs ++ back) = [] from List.dropWhile_eq_nil_iff.mpr hall]
  · have hkept : trimFront (cs ++ back) = trimFront cs ++ back := by
      unfold trimFront at hcs ⊢
      rw [List.dropWhile_append, if_neg (by simpa using hcs)]
    rw [hkept, List.reverse_append, trimFront_append_of_isBlank hreverse]

theorem trimFront_eq_self {c : Char} {cs : List Char} (h : isBlank c = false) :
    trimFront (c :: cs) = c :: cs :=
  List.dropWhile_cons_of_neg (by rw [h]; exact Bool.false_ne_true)

/-- What begins and ends with other characters is left when the blanks around it are cut off. -/
theorem trimChars_append {first last : Char} {middle : List Char}
    (hfront : ∀ c ∈ front, isBlank c) (hback : ∀ c ∈ back, isBlank c)
    (hfirst : isBlank first = false) (hlast : isBlank last = false)
    (hhead : middle.head? = some first) (hend : middle.getLast? = some last) :
    trimChars (front ++ middle ++ back) = middle := by
  rw [trimChars_append_of_isBlank hfront hback, trimChars]
  obtain ⟨rest, rfl⟩ := List.head?_eq_some_iff.mp hhead
  rw [trimFront_eq_self hfirst]
  rw [← List.head?_reverse] at hend
  obtain ⟨others, hothers⟩ := List.head?_eq_some_iff.mp hend
  rw [hothers, trimFront_eq_self hlast, ← hothers, List.reverse_reverse]

/-- Only blanks are cut off. -/
theorem exists_blanks (cs : List Char) : ∃ front back, cs = front ++ trimChars cs ++ back ∧
    (∀ c ∈ front, isBlank c) ∧ ∀ c ∈ back, isBlank c := by
  have hsplit (xs : List Char) : xs.takeWhile isBlank ++ trimFront xs = xs :=
    List.takeWhile_append_dropWhile
  refine ⟨cs.takeWhile isBlank, ((trimFront cs).reverse.takeWhile isBlank).reverse, ?_,
    fun c hc => List.mem_takeWhile_imp hc,
    fun c hc => List.mem_takeWhile_imp (List.mem_reverse.mp hc)⟩
  rw [List.append_assoc, trimChars, ← List.reverse_append, hsplit, List.reverse_reverse, hsplit]

/-! ## Letters -/

/-- Where the code points of a letter in upper case and of its lower case lie. -/
theorem toNat_of_isUpper {c : Char} (h : c.isUpper = true) :
    (65 ≤ c.toNat ∧ c.toNat ≤ 90) ∧ c.toLower.toNat = c.toNat + 32 := by
  have hupper : 65 ≤ c.val ∧ c.val ≤ 90 := of_decide_eq_true h
  have hrange : 65 ≤ c.toNat ∧ c.toNat ≤ 90 := by
    rwa [UInt32.le_iff_toNat_le, UInt32.le_iff_toNat_le] at hupper
  refine ⟨hrange, ?_⟩
  have hcode : (c.val + ('a'.val - 'A'.val)).toNat = c.val.toNat + 32 := by
    have hval : c.val.toNat ≤ 90 := hrange.2
    rw [UInt32.toNat_add, show ('a'.val - 'A'.val).toNat = 32 from rfl]
    omega
  have hlower : c.toLower = ⟨c.val + ('a'.val - 'A'.val), _⟩ := dif_pos hupper
  rw [hlower]
  exact hcode

theorem toLower_of_not_isUpper {c : Char} (h : ¬c.isUpper = true) : c.toLower = c :=
  dif_neg fun hrange => h (decide_eq_true hrange)

theorem toList_toLower (s : String) : s.toLower.toList = s.toList.map Char.toLower :=
  String.toList_map

theorem isBlank_eq_false_of_letter {c : Char} (h : 65 ≤ c.toNat) (h' : c.toNat ≤ 122) :
    isBlank c = false := by
  simp only [isBlank, Bool.or_eq_false_iff, Bool.and_eq_false_iff, decide_eq_false_iff_not,
    beq_eq_false_iff_ne]
  omega

theorem isBlank_toLower (c : Char) : isBlank c.toLower = isBlank c := by
  by_cases hupper : c.isUpper = true
  · obtain ⟨hrange, hlower⟩ := toNat_of_isUpper hupper
    rw [isBlank_eq_false_of_letter (by omega) (by omega),
      isBlank_eq_false_of_letter (by omega) (by omega)]
  · rw [toLower_of_not_isUpper hupper]

theorem trimFront_map_toLower (cs : List Char) :
    trimFront (cs.map Char.toLower) = (trimFront cs).map Char.toLower := by
  have hblank : isBlank ∘ Char.toLower = isBlank := funext isBlank_toLower
  rw [trimFront, List.dropWhile_map, hblank, trimFront]

theorem trimChars_map_toLower (cs : List Char) :
    trimChars (cs.map Char.toLower) = (trimChars cs).map Char.toLower := by
  rw [trimChars, trimFront_map_toLower, ← List.map_reverse, trimFront_map_toLower,
    ← List.map_reverse, trimChars]

end StartOrder.Text
