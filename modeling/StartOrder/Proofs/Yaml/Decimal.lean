import Mathlib.Data.List.Basic
import StartOrder.Yaml.Value.Scalar

/-!
# Numbers in decimal digits

A natural number that is written in decimal digits is read as itself (`unsigned?_toString`). What
might go wrong is that its digits are taken for the mark of another base or for a number that is
padded with zeros, which is a text; but a number that is not zero does not begin with a zero
(`head?_toDigits_ne_zero`). Nor is what spells a number ever taken for null
(`not_null_of_unsigned?`).
-/

namespace StartOrder.Yaml

open Number (digitValue? digitsFrom? ofDigits?)

theorem toNat_of_isDigit {c : Char} (h : c.isDigit) : 0x30 ≤ c.toNat ∧ c.toNat ≤ 0x39 := by
  simpa [Char.isDigit, UInt32.le_iff_toNat_le] using h

theorem digitValue?_of_isDigit {c : Char} (h : c.isDigit) :
    digitValue? 10 c = some (c.toNat - '0'.toNat) := by
  have hc := toNat_of_isDigit h
  have hlt : c.toNat - 0x30 < 10 := by omega
  simp only [digitValue?, if_pos hc, Option.filter_some, hlt, decide_true, if_true]
  rfl

theorem digitsFrom?_of_isDigit {cs : List Char} (h : ∀ c ∈ cs, c.isDigit) (acc : Nat) :
    digitsFrom? 10 acc cs = some (Nat.ofDigitChars 10 cs acc) := by
  induction cs generalizing acc with
  | nil => rfl
  | cons c rest ih =>
    obtain ⟨hc, hrest⟩ := List.forall_mem_cons.mp h
    rw [digitsFrom?, digitValue?_of_isDigit hc, Option.bind_some, ih hrest, Nat.ofDigitChars_cons,
      Nat.mul_comm]

theorem isDigit_of_mem_toDigits_ten {n : Nat} : ∀ c ∈ Nat.toDigits 10 n, c.isDigit := fun _ hc =>
  Nat.isDigit_of_mem_toDigits (by decide) (by decide) hc

theorem ofDigits?_toDigits (n : Nat) : ofDigits? 10 (Nat.toDigits 10 n) = some n := by
  unfold ofDigits?
  rw [List.isEmpty_eq_false_iff.mpr Nat.toDigits_ne_nil, digitsFrom?_of_isDigit
    isDigit_of_mem_toDigits_ten, Nat.ofDigitChars_ten_toDigits]
  rfl

/-- A number that is not zero does not begin with a zero. -/
theorem head?_toDigits_ne_zero {n : Nat} (h : n ≠ 0) : (Nat.toDigits 10 n).head? ≠ some '0' := by
  -- the first digit is that of the number without its last one, if it has two
  induction n using Nat.strongRecOn with
  | ind n ih =>
    by_cases hlt : n < 10
    · rw [Nat.toDigits_of_lt_base hlt, List.head?_cons]
      exact fun hzero => h (Nat.digitChar_eq_zero.mp (Option.some.inj hzero))
    · have hdiv : n / 10 ≠ 0 := by omega
      rw [Nat.toDigits_of_base_le (by decide) (Nat.le_of_not_lt hlt),
        List.head?_append_of_ne_nil _ Nat.toDigits_ne_nil]
      exact ih (n / 10) (by omega) hdiv

theorem splitSign_of_isDigit {cs : List Char} (h : ∀ c ∈ cs, c.isDigit) :
    splitSign cs = (none, cs) := by
  unfold splitSign
  split
  · simp at h
  · simp at h
  · rfl

theorem marked?_of_isDigit {cs : List Char} (h : ∀ c ∈ cs, c.isDigit) : marked? cs = none := by
  unfold marked?
  split
  · simp at h
  · simp at h
  · simp at h
  · rfl

theorem isZeroPadded_toDigits (n : Nat) : isZeroPadded (Nat.toDigits 10 n) = false := by
  unfold isZeroPadded
  rw [splitSign_of_isDigit isDigit_of_mem_toDigits_ten]
  split
  · next d rest heq =>
    by_cases hn : n = 0
    · subst hn
      cases heq
    · exact absurd (congrArg List.head? heq) (head?_toDigits_ne_zero hn)
  · rfl

theorem unsigned?_toString (n : Nat) : unsigned? (toString n) = some n := by
  have hlist : (toString n).toList = Nat.toDigits 10 n := Nat.toList_repr
  unfold unsigned?
  rw [hlist, splitSign_of_isDigit isDigit_of_mem_toDigits_ten]
  show magnitude? (Nat.toDigits 10 n) = some n
  rw [magnitude?, marked?_of_isDigit isDigit_of_mem_toDigits_ten, isZeroPadded_toDigits,
    ofDigits?_toDigits]
  rfl

/-- What spells a number does not spell null, and is not empty. -/
theorem not_null_of_unsigned? {s : String} {n : Nat} (h : unsigned? s = some n) :
    s.isEmpty = false ∧ isNull s = false := by
  constructor
  · by_contra hempty
    rw [Bool.not_eq_false, String.isEmpty_iff] at hempty
    subst hempty
    cases h
  · by_contra hnull
    simp only [Bool.not_eq_false, isNull, Bool.or_eq_true, beq_iff_eq] at hnull
    rcases hnull with ((rfl | rfl) | rfl) | rfl <;> cases h

end StartOrder.Yaml
