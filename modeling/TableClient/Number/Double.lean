/-!
# Double Precision Numbers

Finite numbers of the binary64 format, held as sign, significand and power of
two, with rounding done in exact integer arithmetic.

A number in this format has at most 53 significant bits and a power of two
between -1074 and 971. `nearest` gives the number nearest to a positive
fraction, the one with an even significand when two are equally near; a
product or a quotient is the exact one rounded once. A result that rounds
past the largest finite number is no number here, and the operations answer
`none`.

## Main definitions

* `Double`: A finite number.
* `roundHalfEven`: The integer nearest to a fraction.
* `nearest`: The magnitude nearest to a fraction.
* `ofNat`: The number nearest to a natural one.
* `mul`: The number nearest to a product.
* `div`: The number nearest to a quotient.
-/

namespace TableClient

/-- A finite binary64 number: the significand times two to the exponent,
    negated where the sign says so. Zero has a sign as well. -/
structure Double where
  negative : Bool
  significand : Nat
  exponent : Int
deriving DecidableEq, Repr

namespace Double

/-- The least exponent, that of zero and of the subnormal numbers. -/
def minExponent : Int := -1074

/-- The greatest exponent of a finite number. -/
def maxExponent : Int := 971

/-- The number of bits of a significand. -/
def precision : Nat := 53

/-- The integer nearest to a fraction, the even one of two equally near. -/
def roundHalfEven (num den : Nat) : Nat :=
  let whole := num / den
  let twice := 2 * (num % den)
  if den < twice then whole + 1
  else if twice = den then whole + whole % 2
  else whole

/-- A fraction divided by two to an exponent, as a fraction again. -/
def scaled (num den : Nat) (exponent : Int) : Nat × Nat :=
  if 0 ≤ exponent then (num, den * Nat.pow 2 exponent.toNat)
  else (num * Nat.pow 2 (-exponent).toNat, den)

/-- The significand and the exponent nearest to a fraction above zero; `none`
    when that is past the largest finite number. -/
def nearest (num den : Nat) : Option (Nat × Int) :=
  let size : Int := (num.log2 : Int) - den.log2
  let low := max (size - precision) minExponent
  let (n, d) := scaled num den low
  let exponent := if Nat.pow 2 precision ≤ n / d then low + 1 else low
  let (n, d) := scaled num den exponent
  let significand := roundHalfEven n d
  let (significand, exponent) :=
    if significand = Nat.pow 2 precision then (Nat.pow 2 (precision - 1), exponent + 1)
    else (significand, exponent)
  if maxExponent < exponent then none else some (significand, exponent)

/-- A magnitude as a fraction. -/
def fraction (x : Double) : Nat × Nat :=
  if 0 ≤ x.exponent then (x.significand * Nat.pow 2 x.exponent.toNat, 1)
  else (x.significand, Nat.pow 2 (-x.exponent).toNat)

/-- Zero with the given sign. -/
def zero (negative : Bool) : Double :=
  ⟨negative, 0, minExponent⟩

/-- The number nearest to a fraction, with a sign. -/
def ofFraction (negative : Bool) (num den : Nat) : Option Double :=
  if num = 0 then some (zero negative)
  else (nearest num den).map fun (significand, exponent) => ⟨negative, significand, exponent⟩

/-- The number nearest to a natural one. -/
def ofNat (n : Nat) : Option Double :=
  ofFraction false n 1

/-- The number nearest to the product of two. -/
def mul (x y : Double) : Option Double :=
  let (a, b) := x.fraction
  let (c, d) := y.fraction
  ofFraction (x.negative != y.negative) (a * c) (b * d)

/-- The number nearest to the quotient of two, the second of them not zero. -/
def div (x y : Double) : Option Double :=
  let (a, b) := x.fraction
  let (c, d) := y.fraction
  ofFraction (x.negative != y.negative) (a * d) (b * c)

/-- The number with the sign as given. -/
def withSign (negative : Bool) (x : Double) : Double :=
  { x with negative }

end Double

end TableClient
