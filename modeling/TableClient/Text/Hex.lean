/-!
# Hexadecimal Digits

One hexadecimal digit as a character, and back.

Digits are written in lower or in upper case as the format at hand asks; read
back, either case is as good as the other.

## Main definitions

* `hexDigit`: The digit in lower case.
* `hexDigitUpper`: The digit in upper case.
* `hexValue?`: The value of a digit.

## Theorems

* `hexValue?_hexDigit`: A digit in lower case reads back.
* `hexValue?_hexDigitUpper`: A digit in upper case reads back.
-/

namespace TableClient

namespace Text

/-- The hexadecimal digit of a number below sixteen, in lower case. -/
def hexDigit (n : Nat) : Char :=
  if n < 10 then Char.ofNat (48 + n) else Char.ofNat (87 + n)

/-- The hexadecimal digit of a number below sixteen, in upper case. -/
def hexDigitUpper (n : Nat) : Char :=
  if n < 10 then Char.ofNat (48 + n) else Char.ofNat (55 + n)

/-- The value of a hexadecimal digit of either case. -/
def hexValue? (c : Char) : Option Nat :=
  if '0' ≤ c ∧ c ≤ '9' then some (c.toNat - 48)
  else if 'a' ≤ c ∧ c ≤ 'f' then some (c.toNat - 87)
  else if 'A' ≤ c ∧ c ≤ 'F' then some (c.toNat - 55)
  else none

theorem hexValue?_hexDigit {n : Nat} (h : n < 16) : hexValue? (hexDigit n) = some n := by
  revert n
  decide

theorem hexValue?_hexDigitUpper {n : Nat} (h : n < 16) :
    hexValue? (hexDigitUpper n) = some n := by
  revert n
  decide

end Text

end TableClient
