import StartOrder.Number.Digits

/-!
# Binary floating-point numbers of 64 bits

Numbers with 53 significant bits, as pairs of a mantissa and a power of two, and the decimal texts
that denote them. All arithmetic is on natural numbers, so no rounding is hidden: a decimal is a
fraction, which is scaled until its quotient has no more bits than a mantissa, and rounded once, a
tie going to the even mantissa.

Numbers are compared by what they denote, so the two zeros are equal, and the number that is none is
not equal to itself.
-/

namespace StartOrder.Number

/-- A floating-point number. A finite one is `mantissa * 2 ^ exponent`, with less than `2 ^ 53` as
mantissa, at least `-1074` as exponent, and the least exponent that allows it. -/
inductive Binary64 where
  | finite (negative : Bool) (mantissa : Nat) (exponent : Int)
  | infinity (negative : Bool)
  | nan
  deriving DecidableEq, Repr

namespace Binary64

/-- A quotient rounded to the nearest natural number, a tie going to the even one. -/
def roundDiv (num den : Nat) : Nat :=
  let q := num / den
  let r := num % den
  if 2 * r < den then q
  else if 2 * r > den then q + 1
  else if q % 2 = 0 then q else q + 1

/-- A quotient of natural numbers times a power of two, as a fraction. -/
def scaled (num den : Nat) (exponent : Int) : Nat × Nat :=
  if exponent < 0 then (num, den * Nat.pow 2 (-exponent).toNat)
  else (num * Nat.pow 2 exponent.toNat, den)

/-- The number nearest to a positive fraction. -/
def ofFraction (negative : Bool) (num den : Nat) : Binary64 :=
  -- the fraction lies between `2 ^ (guess - 1)` and `2 ^ (guess + 1)`
  let guess : Int := (Nat.log2 num : Int) - Nat.log2 den
  let top : Int :=
    let (a, b) := scaled num den (-guess)
    if a < b then guess - 1 else guess
  let exponent := max (-1074) (top - 52)
  let (a, b) := scaled num den (-exponent)
  let mantissa := roundDiv a b
  let (mantissa, exponent) :=
    if mantissa = Nat.pow 2 53 then (Nat.pow 2 52, exponent + 1) else (mantissa, exponent)
  if exponent > 971 then .infinity negative else .finite negative mantissa exponent

/-- The number nearest to `digits * 10 ^ power`. Powers far outside the range give zero or infinity
without being computed. -/
def ofDecimal (negative : Bool) (digits : Nat) (power : Int) : Binary64 :=
  let size : Int := (Nat.toDigits 10 digits).length
  if digits = 0 then .finite negative 0 (-1074)
  else if power + size > 310 then .infinity negative
  else if power + size < -330 then .finite negative 0 (-1074)
  else if power < 0 then ofFraction negative digits (Nat.pow 10 (-power).toNat)
  else ofFraction negative (digits * Nat.pow 10 power.toNat) 1

/-- The parts of an unsigned decimal numeral: the digits before and after the point, and the power
of ten that is written behind them. -/
def splitNumeral? (cs : List Char) : Option (List Char × List Char × Int) :=
  let whole := cs.takeWhile Char.isDigit
  let rest := cs.dropWhile Char.isDigit
  let (fraction, rest) := match rest with
    | '.' :: rest => (rest.takeWhile Char.isDigit, rest.dropWhile Char.isDigit)
    | _ => ([], rest)
  if whole.isEmpty && fraction.isEmpty then none
  else match rest with
    | [] => some (whole, fraction, 0)
    | e :: rest =>
      if e = 'e' || e = 'E' then
        let (negative, digits) := match rest with
          | '-' :: digits => (true, digits)
          | '+' :: digits => (false, digits)
          | _ => (false, rest)
        if digits.isEmpty || !digits.all Char.isDigit then none
        else
          let n : Int := Number.ofDecimal digits
          some (whole, fraction, if negative then -n else n)
      else none

/-- Read a decimal numeral, with a sign or without. -/
def ofText? (cs : List Char) : Option Binary64 :=
  let (negative, cs) := match cs with
    | '-' :: cs => (true, cs)
    | '+' :: cs => (false, cs)
    | _ => (false, cs)
  (splitNumeral? cs).map fun (whole, fraction, power) =>
    ofDecimal negative (Number.ofDecimal (whole ++ fraction)) (power - fraction.length)

/-- Whether a number is neither infinite nor undefined. -/
def isFinite : Binary64 → Bool
  | .finite .. => true
  | _ => false

/-- Whether two numbers denote the same value. The two zeros do; the number that is none equals
itself. -/
def equals : Binary64 → Binary64 → Bool
  | .finite n m e, .finite n' m' e' => (m == 0 && m' == 0) || (n == n' && m == m' && e == e')
  | .infinity n, .infinity n' => n == n'
  | .nan, .nan => true
  | _, _ => false

end Binary64

end StartOrder.Number
