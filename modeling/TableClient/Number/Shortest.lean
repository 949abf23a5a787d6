import TableClient.Number.Double

/-!
# The Shortest Decimal of a Double

The decimal number with the fewest digits that still reads back as a given
double, and the text it is written with.

A decimal reads back as a double when it lies between the two midpoints to
the neighbouring doubles; a midpoint itself reads back when the significand
is even. Decimals with `n` digits form a grid, and if any point of the grid
lies in that interval, then so does one of the two points next to the double
itself. So it is enough to look at those two on the grids of one digit, two
digits and so on. Seventeen digits always suffice.

## Main definitions

* `ReadBack`: The decimals that read back as a double, as an interval.
* `decimalExponent`: The power of ten of the leading digit.
* `shortest`: The digits and the power of ten of the leading one.
* `Double.text`: The text of a number.
-/

namespace TableClient

namespace Double

/-- The interval of the decimals that read back as a double, as multiples of
    `1 / den`: the double is `value / den`, the midpoints below and above it
    are `below / den` and `above / den`, and they belong to the interval when
    `closed` holds. -/
structure ReadBack where
  den : Nat
  value : Nat
  below : Nat
  above : Nat
  closed : Bool
deriving Repr

/-- The interval of a double. Below a power of two the doubles lie twice as
    close, except at the end of the range. -/
def readBack (x : Double) : ReadBack :=
  let m := x.significand
  let lower :=
    if m = Nat.pow 2 (precision - 1) ∧ minExponent < x.exponent then 4 * m - 1 else 4 * m - 2
  let closed := m % 2 == 0
  if 0 ≤ x.exponent then
    let unit := Nat.pow 2 x.exponent.toNat
    ⟨4, 4 * m * unit, lower * unit, (4 * m + 2) * unit, closed⟩
  else
    ⟨4 * Nat.pow 2 (-x.exponent).toNat, 4 * m, lower, 4 * m + 2, closed⟩

/-- Membership of a fraction in the interval. -/
def ReadBack.contains (interval : ReadBack) (num den : Nat) : Bool :=
  let here := num * interval.den
  if interval.closed then interval.below * den ≤ here && here ≤ interval.above * den
  else interval.below * den < here && here < interval.above * den

/-- The number of decimal digits of a natural number. -/
def digitCount (n : Nat) : Nat :=
  (Nat.toDigits 10 n).length

/-- The power of ten of the leading digit of a fraction above zero. -/
def decimalExponent (num den : Nat) : Int :=
  if den ≤ num then (digitCount (num / den) : Int) - 1
  else -(digitCount ((den - 1) / num) : Int)

/-- A natural number times a power of ten, as a fraction. -/
def decimalFraction (n : Nat) (exponent : Int) : Nat × Nat :=
  if 0 ≤ exponent then (n * Nat.pow 10 exponent.toNat, 1)
  else (n, Nat.pow 10 (-exponent).toNat)

/-- The point of the grid of multiples of a power of ten that is nearest to
    the double among its two neighbours there that read back, if one does.
    Of two equally near the even one is taken. -/
def ReadBack.gridPoint? (interval : ReadBack) (step : Int) : Option Nat :=
  let (unit, part) := decimalFraction 1 step
  let num := interval.value * part
  let den := interval.den * unit
  let floor := num / den
  let rest := num % den
  let reads (n : Nat) : Bool := interval.contains (n * unit) part
  match reads floor, reads (floor + 1) with
  | true, true =>
    if 2 * rest < den then some floor
    else if 2 * rest = den then some (floor + floor % 2)
    else some (floor + 1)
  | true, false => some floor
  | false, true => some (floor + 1)
  | false, false => none

/-- The first grid point that reads back, trying `count` more digits; `digits`
    is the number of digits of the next grid. -/
def ReadBack.search (interval : ReadBack) (lead : Int) (digits : Nat) : Nat → Nat × Int
  | 0 => (0, 0)
  | count + 1 =>
    let step := lead - digits + 1
    match interval.gridPoint? step with
    | some n => (n, step)
    | none => interval.search lead (digits + 1) count

/-- The shortest decimal of a number other than zero: its digits, the last of
    them not zero, and the power of ten of the first. -/
def shortest (x : Double) : List Char × Int :=
  let interval := x.readBack
  let lead := decimalExponent interval.value interval.den
  let (n, step) := interval.search lead 1 17
  let digits := Nat.toDigits 10 n
  let kept := (digits.reverse.dropWhile (· == '0')).reverse
  (kept, step + digits.length - 1)

/-- The least power of ten of a leading digit that is written out in place. -/
def leastPositional : Int := -5

/-- The greatest power of ten of a leading digit that is written out in
    place. -/
def greatestPositional : Int := 15

/-- Digits written out in place, with at least one digit on both sides of the
    point. -/
def positional (digits : List Char) (lead : Int) : List Char :=
  if lead < 0 then
    '0' :: '.' :: (List.replicate (-lead - 1).toNat '0' ++ digits)
  else
    let whole := lead.toNat + 1
    let front := digits.take whole
    let back := digits.drop whole
    front ++ List.replicate (whole - front.length) '0'
      ++ '.' :: if back.isEmpty then ['0'] else back

/-- Digits with the power of ten behind them. The point stands behind the
    first digit, and only if there is a second one. -/
def scientific (digits : List Char) (lead : Int) : List Char :=
  let mantissa :=
    match digits with
    | first :: second :: rest => first :: '.' :: second :: rest
    | _ => digits
  let sign := if lead < 0 then '-' else '+'
  mantissa ++ 'e' :: sign :: Nat.toDigits 10 lead.natAbs

/-- The text of a number: its shortest decimal, written out in place unless
    the leading digit is far from the point. -/
def text (x : Double) : String :=
  let sign := if x.negative then ['-'] else []
  if x.significand = 0 then .ofList (sign ++ ['0', '.', '0'])
  else
    let (digits, lead) := x.shortest
    let body :=
      if leastPositional ≤ lead ∧ lead ≤ greatestPositional then positional digits lead
      else scientific digits lead
    .ofList (sign ++ body)

end Double

end TableClient
