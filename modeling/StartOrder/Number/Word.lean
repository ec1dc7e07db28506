import StartOrder.Number.Digits

/-!
# Words

Arithmetic on numbers of 64 bits that gives no result where the true one takes more bits, and the
words that decimal digits spell, with a plus sign before them or without.
-/

namespace StartOrder.Number.Word

/-- The sum of two words, unless it takes more than 64 bits. -/
def add? (a b : UInt64) : Option UInt64 :=
  if a.toNat + b.toNat < UInt64.size then some (a + b) else none

/-- The product of two words, unless it takes more than 64 bits. -/
def mul? (a b : UInt64) : Option UInt64 :=
  if a.toNat * b.toNat < UInt64.size then some (a * b) else none

/-- The word that decimal digits spell, continuing from that of the digits read so far. -/
def spelledFrom? (acc : UInt64) : List Char → Option UInt64
  | [] => some acc
  | c :: rest =>
    (digitValue? 10 c).bind fun digit => (mul? acc 10).bind fun shifted =>
      (add? shifted (UInt64.ofNat digit)).bind (spelledFrom? · rest)

/-- The word that a non-empty list of decimal digits spells, with a plus sign or without. -/
def spelled? (cs : List Char) : Option UInt64 :=
  let digits := match cs with
    | '+' :: rest => rest
    | _ => cs
  if digits.isEmpty then none else spelledFrom? 0 digits

end StartOrder.Number.Word
