import TableClient.Json.Error

/-!
# Words, Strings and Numbers of JSON

Reading the parts of a text that hold no further values.

Every reader takes the text that is still unread and gives back what it read
and what remains. A failure carries the number of bytes that were unread when
the fault was noticed. Some faults are noticed before the offending byte is
consumed and some after it; the byte may be the first of several that make up
one character.

Loops recurse on a bound, a list that is one element shorter in each round. A
loop over a text starts with the text itself as its bound. It reads at least
one character in each round, so the bound never runs out before the text.

A number is read into a significand of at most 64 bits and a power of ten.
Digits of the whole part that no longer fit only raise the power, digits of
the fraction that no longer fit are left out. The double is the significand,
rounded, then multiplied or divided by a rounded power of ten and rounded
again. Powers beyond 308 are applied in steps.

## Main definitions

* `Failure`: A fault and the number of unread bytes.
* `Reader`: What reads a value from the front of a text.
* `skipBlanks`: The text behind its leading blanks.
* `word`: The letters of a fixed word.
* `string`: A string, behind its opening quote.
* `number`: A number, from its first digit.
-/

namespace TableClient

namespace Json

/-- A fault and the number of bytes that were unread when it was noticed. -/
structure Failure where
  fault : Fault
  unread : Nat
deriving DecidableEq, Repr

/-- Reads a value from the front of a text and gives back what remains. -/
abbrev Reader (α : Type) :=
  List Char → Except Failure (α × List Char)

/-- The number of bytes a text takes in UTF-8. -/
def byteLength (text : List Char) : Nat :=
  (Text.utf8 text).length

/-- A fault noticed in front of the rest. -/
def Failure.before (fault : Fault) (rest : List Char) : Failure :=
  ⟨fault, byteLength rest⟩

/-- A fault noticed behind the first byte of the rest, or at its end. -/
def Failure.behind (fault : Fault) (rest : List Char) : Failure :=
  ⟨fault, byteLength rest - 1⟩

/-- The four blanks of the format. -/
def isBlank (c : Char) : Bool :=
  c == ' ' || c == '\n' || c == '\t' || c == '\r'

/-- The text behind its leading blanks. -/
def skipBlanks (text : List Char) : List Char :=
  text.dropWhile isBlank

/-- Reads the given letters and nothing else. -/
def word : List Char → List Char → Except Failure (List Char)
  | [], rest => .ok rest
  | _ :: _, [] => .error (.before .endInValue [])
  | letter :: letters, c :: rest =>
    if c = letter then word letters rest else .error (.behind .expectedWord (c :: rest))

/-! ### Strings -/

/-- The number that four hexadecimal digits spell. -/
def unitOfDigits? (a b c d : Char) : Option Nat := do
  let a ← Text.hexValue? a
  let b ← Text.hexValue? b
  let c ← Text.hexValue? c
  let d ← Text.hexValue? d
  pure (((a * 16 + b) * 16 + c) * 16 + d)

/-- The failure of four bytes that are not four hexadecimal digits. -/
def badUnit (rest : List Char) : Failure :=
  if byteLength rest < 4 then ⟨.endInString, 0⟩ else ⟨.invalidEscape, byteLength rest - 4⟩

/-- Reads four hexadecimal digits. -/
def codeUnit : Reader Nat
  | a :: b :: c :: d :: rest =>
    match unitOfDigits? a b c d with
    | some unit => .ok (unit, rest)
    | none => .error (badUnit (a :: b :: c :: d :: rest))
  | rest => .error (badUnit rest)

/-- A code unit that has to be followed by a second one. -/
def isLeadingSurrogate (unit : Nat) : Bool :=
  0xD800 ≤ unit && unit ≤ 0xDBFF

/-- A code unit that has to follow a first one. -/
def isTrailingSurrogate (unit : Nat) : Bool :=
  0xDC00 ≤ unit && unit ≤ 0xDFFF

/-- The character of a pair of code units. -/
def surrogatePair (leading trailing : Nat) : Char :=
  .ofNat ((leading - 0xD800) * 0x400 + (trailing - 0xDC00) + 0x10000)

/-- Reads the second half of a pair, its escape included. -/
def trailingSurrogate (leading : Nat) : Reader Char
  | [] => .error (.before .endInString [])
  | ['\\'] => .error (.before .endInString [])
  | '\\' :: 'u' :: rest => do
    let (trailing, rest) ← codeUnit rest
    if isTrailingSurrogate trailing then .ok (surrogatePair leading trailing, rest)
    else .error (.before .loneSurrogate rest)
  | '\\' :: rest => .error (.behind .unfinishedSurrogate rest)
  | rest => .error (.behind .unfinishedSurrogate rest)

/-- Reads a character given by its code unit or by a pair of them. -/
def codePoint : Reader Char := fun text => do
  let (unit, rest) ← codeUnit text
  if isTrailingSurrogate unit then .error (.before .loneSurrogate rest)
  else if isLeadingSurrogate unit then trailingSurrogate unit rest
  else .ok (.ofNat unit, rest)

/-- The character that a letter behind a backslash stands for. -/
def letterEscape? : Char → Option Char
  | '"' => some '"'
  | '\\' => some '\\'
  | '/' => some '/'
  | 'b' => some '\x08'
  | 'f' => some '\x0c'
  | 'n' => some '\x0a'
  | 'r' => some '\x0d'
  | 't' => some '\x09'
  | _ => none

/-- Reads what follows a backslash. -/
def escape : Reader Char
  | [] => .error (.before .endInString [])
  | 'u' :: rest => codePoint rest
  | c :: rest =>
    match letterEscape? c with
    | some meant => .ok (meant, rest)
    | none => .error (.behind .invalidEscape (c :: rest))

/-- Reads the characters of a string up to its closing quote, at most as many
    as the bound is long. -/
def stringChars : List Char → Reader (List Char)
  | [], rest => .error (.before .endInString rest)
  | _ :: _, [] => .error (.before .endInString [])
  | _ :: _, '"' :: rest => .ok ([], rest)
  | _ :: bound, '\\' :: rest => do
    let (c, rest) ← escape rest
    let (cs, rest) ← stringChars bound rest
    .ok (c :: cs, rest)
  | _ :: bound, c :: rest =>
    if c.toNat < 0x20 then .error (.before .controlCharacter rest)
    else do
      let (cs, rest) ← stringChars bound rest
      .ok (c :: cs, rest)

/-- Reads a string, its opening quote already read. -/
def string : Reader String := fun text => do
  let (cs, rest) ← stringChars text text
  .ok (.ofList cs, rest)

/-! ### Numbers -/

/-- The value of a decimal digit. -/
def digitValue (c : Char) : Nat :=
  c.toNat - 48

/-- Puts digits behind a significand as long as it fits into 64 bits, and
    counts them. -/
def takeDigits (significand taken : Nat) : List Char → Nat × Nat
  | [] => (significand, taken)
  | c :: rest =>
    let longer := significand * 10 + digitValue c
    if longer < Nat.pow 2 64 then takeDigits longer (taken + 1) rest else (significand, taken)

/-- The greatest power of ten that is applied in one step. -/
def greatestStep : Nat := 308

/-- A number times a power of ten, each step rounded; `none` is out of range.
    A significand of 64 bits is zero after two steps down, so three steps are
    enough for any power. -/
def applyPower : Nat → Double → Int → Option Double
  | 0, x, _ => some (.zero x.negative)
  | steps + 1, x, power =>
    if power.natAbs ≤ greatestStep then do
      let scale ← Double.ofNat (Nat.pow 10 power.natAbs)
      if 0 ≤ power then x.mul scale else x.div scale
    else if x.significand = 0 then some x
    else if 0 ≤ power then none
    else do
      let scale ← Double.ofNat (Nat.pow 10 greatestStep)
      applyPower steps (← x.div scale) (power + greatestStep)

/-- The double of a significand and a power of ten. -/
def real (negative : Bool) (significand : Nat) (power : Int) : Option Double := do
  let x ← applyPower 3 (← Double.ofNat significand) power
  pure (x.withSign negative)

/-- A double as the outcome of reading; the whole number has been read. -/
def realOrFail (negative : Bool) (significand : Nat) (power : Int) : Reader Number := fun rest =>
  match real negative significand power with
  | some x => .ok (.real x, rest)
  | none => .error (.before .numberOutOfRange rest)

/-- Reads the digits of an exponent; the second outcome is the text behind
    the first digit that takes it out of 31 bits. -/
def exponentDigits (value : Nat) : List Char → Except (List Char) (Nat × List Char)
  | [] => .ok (value, [])
  | c :: rest =>
    if c.isDigit then
      let longer := value * 10 + digitValue c
      if longer < Nat.pow 2 31 then exponentDigits longer rest else .error rest
    else .ok (value, c :: rest)

/-- Reads the digits of an exponent, of which there is at least one. -/
def exponentValue (negative : Bool) (significand : Nat) (power : Int) (down : Bool) :
    Reader Number
  | [] => .error (.before .endInValue [])
  | c :: rest =>
    if c.isDigit then
      match exponentDigits (digitValue c) rest with
      | .ok (value, rest) =>
        realOrFail negative significand (if down then power - value else power + value) rest
      | .error rest =>
        if significand ≠ 0 ∧ down = false then .error (.before .numberOutOfRange rest)
        else .ok (.real (.zero negative), rest.dropWhile Char.isDigit)
    else .error (.behind .invalidNumber (c :: rest))

/-- Reads an exponent behind its letter. -/
def exponent (negative : Bool) (significand : Nat) (power : Int) : Reader Number
  | '+' :: rest => exponentValue negative significand power false rest
  | '-' :: rest => exponentValue negative significand power true rest
  | rest => exponentValue negative significand power false rest

/-- Reads the exponent of a number with a point, if there is one. -/
def behindFraction (negative : Bool) (significand : Nat) (power : Int) : Reader Number
  | 'e' :: rest => exponent negative significand power rest
  | 'E' :: rest => exponent negative significand power rest
  | rest => realOrFail negative significand power rest

/-- Reads a fraction behind its point; `power` is the power of ten of the
    whole part. -/
def fraction (negative : Bool) (significand : Nat) (power : Int) : Reader Number := fun text =>
  let digits := text.takeWhile Char.isDigit
  let rest := text.dropWhile Char.isDigit
  if digits.isEmpty then
    .error (.behind (if rest.isEmpty then .endInValue else .invalidNumber) rest)
  else
    let (significand, taken) := takeDigits significand 0 digits
    behindFraction negative significand (power - taken) rest

/-- The integer with a sign, where it has one of its own; minus zero and
    integers out of range are doubles. -/
def integer? (negative : Bool) (significand : Nat) : Option Int :=
  if negative then
    if 0 < significand ∧ significand ≤ Nat.pow 2 63 then some (-significand) else none
  else some significand

/-- Reads what follows the whole part, `dropped` digits of which did not
    fit. -/
def behindWhole (negative : Bool) (significand dropped : Nat) : Reader Number
  | '.' :: rest => fraction negative significand dropped rest
  | 'e' :: rest => exponent negative significand dropped rest
  | 'E' :: rest => exponent negative significand dropped rest
  | rest =>
    match if dropped = 0 then integer? negative significand else none with
    | some value => .ok (.int value, rest)
    | none => realOrFail negative significand dropped rest

/-- Reads a number behind its sign. A zero in front stands alone. -/
def unsigned (negative : Bool) : Reader Number
  | [] => .error (.before .endInValue [])
  | '0' :: rest =>
    match rest with
    | c :: _ =>
      if c.isDigit then .error (.behind .invalidNumber rest) else behindWhole negative 0 0 rest
    | [] => behindWhole negative 0 0 []
  | c :: rest =>
    if c.isDigit then
      let digits := c :: rest.takeWhile Char.isDigit
      let (significand, taken) := takeDigits 0 0 digits
      behindWhole negative significand (digits.length - taken) (rest.dropWhile Char.isDigit)
    else .error (.behind .invalidNumber (c :: rest))

/-- Reads a number with or without a sign. -/
def number : Reader Number
  | '-' :: rest => unsigned true rest
  | rest => unsigned false rest

end Json

end TableClient
