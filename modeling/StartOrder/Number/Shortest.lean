import StartOrder.Number.Binary64

/-!
# Shortest decimals

The fewest decimal digits that read back as a given floating-point number and, of those, the ones
nearest to it. The decimals that read back form an interval around the number; the grids of
multiples of a power of ten are tried from the coarsest on, until one has a point in it.

There are two ways of writing the digits down, which also differ in how they break a tie: always
positional, and positional between `1e-5` and `1e16` with a power of ten outside.
-/

namespace StartOrder.Number

namespace Binary64

/-- Which of two equally near candidates is taken. -/
inductive Tie where
  | toEven
  | up
  deriving DecidableEq

/-- The numbers between two bounds over one denominator, with or without the bounds themselves. -/
structure Interval where
  low : Nat
  high : Nat
  den : Nat
  closed : Bool

/-- The interval of the reals that round to a positive number; an even mantissa owns its ends. -/
def interval (mantissa : Nat) (exponent : Int) : Interval :=
  let gap := if mantissa = Nat.pow 2 52 ∧ exponent > -1074 then 1 else 2
  let (low, den) := scaled (4 * mantissa - gap) 4 exponent
  let (high, _) := scaled (4 * mantissa + 2) 4 exponent
  { low, high, den, closed := mantissa % 2 = 0 }

/-- Whether a decimal lies in an interval. -/
def Interval.holds (i : Interval) (digits : Nat) (power : Int) : Bool :=
  let (num, den) :=
    if power < 0 then (digits, Nat.pow 10 (-power).toNat)
    else (digits * Nat.pow 10 power.toNat, 1)
  let value := num * i.den
  let low := i.low * den
  let high := i.high * den
  if i.closed then low ≤ value && value ≤ high else low < value && value < high

/-- The two neighbours of a fraction on the grid of the multiples of a power of ten, and how the
distances to them compare. -/
def neighbours (num den : Nat) (power : Int) : Nat × Ordering :=
  let (num, den) :=
    if power < 0 then (num * Nat.pow 10 (-power).toNat, den)
    else (num, den * Nat.pow 10 power.toNat)
  (num / den, compare (2 * (num % den)) den)

/-- The candidate with a given grid: the nearer neighbour that reads back, if one does. -/
def candidate? (tie : Tie) (i : Interval) (num den : Nat) (power : Int) : Option Nat :=
  let (below, distance) := neighbours num den power
  let low := i.holds below power
  let high := i.holds (below + 1) power
  match low, high with
  | false, false => none
  | true, false => some below
  | false, true => some (below + 1)
  | true, true => match distance with
    | .lt => some below
    | .gt => some (below + 1)
    | .eq => if tie = .toEven && below % 2 = 0 then some below else some (below + 1)

/-- Drop the zeros at the end of a number, raising the power of ten. -/
def dropZeros (digits : Nat) (power : Int) : Nat × Int :=
  if h : digits ≠ 0 ∧ digits % 10 = 0 then dropZeros (digits / 10) (power + 1) else (digits, power)
termination_by digits
decreasing_by exact Nat.div_lt_self (Nat.pos_of_ne_zero h.1) (by decide)

/-- The shortest decimal that reads back as a positive number, as digits and a power of ten: the
coarsest of the grids with up to seventeen digits that has a point in the interval. -/
def shortest (tie : Tie) (mantissa : Nat) (exponent : Int) : Nat × Int :=
  let i := interval mantissa exponent
  let (num, den) := scaled mantissa 1 exponent
  let size : Int := (Nat.toDigits 10 (num / den)).length
  let lead : Int :=
    if num < den then 1 - ((Nat.toDigits 10 (den / num)).length : Int) else size
  let grids := (List.range 19).map fun n : Nat => lead + 1 - (n : Int)
  match grids.findSome? fun power => (candidate? tie i num den power).bind fun digits =>
      if digits = 0 then none else some (digits, power) with
  | some (digits, power) => dropZeros digits power
  | none => (mantissa, 0)

/-- Digits with the point `point` places behind the first of them, filled up with zeros. -/
def positional (digits : List Char) (point : Int) : List Char :=
  if point ≤ 0 then '0' :: '.' :: List.replicate (-point).toNat '0' ++ digits
  else
    let whole := digits.take point.toNat
    let fraction := digits.drop point.toNat
    whole ++ List.replicate (point.toNat - whole.length) '0' ++
      '.' :: (if fraction.isEmpty then ['0'] else fraction)

/-- A number with a point or an exponent. The digits are positional while the point stands at most
five places before the first digit and at most sixteen behind it. -/
def scientificText : Binary64 → String
  | .nan => ".nan"
  | .infinity negative => if negative then "-.inf" else ".inf"
  | .finite negative mantissa exponent =>
    let sign := if negative then ['-'] else []
    if mantissa = 0 then String.ofList (sign ++ ['0', '.', '0'])
    else
      let (digits, power) := shortest .toEven mantissa exponent
      let ds := Nat.toDigits 10 digits
      let point := (ds.length : Int) + power
      if -5 < point && point ≤ 16 then String.ofList (sign ++ positional ds point)
      else
        let head := match ds with
          | d :: e :: rest => d :: '.' :: e :: rest
          | _ => ds
        String.ofList (sign ++ head ++ 'e' :: (toString (point - 1)).toList)

/-- A number with a point and no exponent. -/
def positionalText : Binary64 → String
  | .nan => "NaN"
  | .infinity negative => if negative then "-inf" else "inf"
  | .finite negative mantissa exponent =>
    let sign := if negative then ['-'] else []
    if mantissa = 0 then String.ofList (sign ++ ['0', '.', '0'])
    else
      let (digits, power) := shortest .up mantissa exponent
      let ds := Nat.toDigits 10 digits
      String.ofList (sign ++ positional ds ((ds.length : Int) + power))

end Binary64

end StartOrder.Number
