/-!
# Digits

Reading natural numbers written in a base of at most sixteen, letters counting from ten in either
case.
-/

namespace StartOrder.Number

/-- The value of a digit in a base of at most sixteen. -/
def digitValue? (base : Nat) (c : Char) : Option Nat :=
  let n := c.toNat
  let value? :=
    if 0x30 ≤ n ∧ n ≤ 0x39 then some (n - 0x30)
    else if 0x41 ≤ n ∧ n ≤ 0x46 then some (n - 0x41 + 10)
    else if 0x61 ≤ n ∧ n ≤ 0x66 then some (n - 0x61 + 10)
    else none
  value?.filter (· < base)

/-- The value of a list of digits, most significant first, continuing from the digits read so
far. -/
def digitsFrom? (base : Nat) (acc : Nat) : List Char → Option Nat
  | [] => some acc
  | c :: rest => (digitValue? base c).bind fun d => digitsFrom? base (acc * base + d) rest

/-- The value of a non-empty list of digits, most significant first. -/
def ofDigits? (base : Nat) (cs : List Char) : Option Nat :=
  if cs.isEmpty then none else digitsFrom? base 0 cs

/-- The value of decimal digits; other characters must not occur. -/
def ofDecimal (cs : List Char) : Nat := (digitsFrom? 10 0 cs).getD 0

end StartOrder.Number
