/-!
# Punycode

Texts of any script in the letters, digits and hyphens of ASCII.

The characters of ASCII in a text come first, as they are, and a hyphen after
them if there are any. The others follow as the steps by which they are put
back, those with the lowest code points first: a character is put into the
text so far at one of its places, and code point and place together make one
number, of which only the distance to the number before is written.

A distance is written in digits of base thirty-six, the lowest first. A digit
below a threshold is the last one. The thresholds depend on a bias, which
follows the size of the distances so that common ones are short.

## Main definitions

* `number`, `readNumber?`: A distance in digits, and back.
* `encode`: A text in ASCII.
* `decode?`: The text that was written in ASCII.

## Theorems

* `readNumber?_length`: Reading a distance takes at least one digit.
-/

namespace TableClient

namespace Url

namespace Punycode

/-! ### Distances -/

/-- The digit of a number below thirty-six. -/
def digit (n : Nat) : Char :=
  if n < 26 then Char.ofNat (97 + n) else Char.ofNat (22 + n)

/-- The value of a digit. -/
def digitValue? (c : Char) : Option Nat :=
  if 'a' ≤ c ∧ c ≤ 'z' then some (c.toNat - 97)
  else if '0' ≤ c ∧ c ≤ '9' then some (c.toNat - 22)
  else none

/-- The threshold of a digit. The digits are numbered in steps of
    thirty-six. -/
def threshold (bias k : Nat) : Nat :=
  max 1 (min 26 (k - bias))

/-- A distance divided down to the size of a bias. -/
def settle (delta k : Nat) : Nat :=
  if 455 < delta then settle (delta / 35) (k + 36) else k + 36 * delta / (delta + 38)
termination_by delta
decreasing_by exact Nat.div_lt_self (by omega) (by omega)

/-- The bias behind a distance, in a text of so many characters. -/
def adapt (delta count : Nat) (isFirst : Bool) : Nat :=
  let delta := if isFirst then delta / 700 else delta / 2
  settle (delta + delta / count) 0

/-- A distance in digits, from the digit numbered `k` on. -/
def number (bias k n : Nat) : List Char :=
  let t := threshold bias k
  if n < t then [digit n]
  else digit (t + (n - t) % (36 - t)) :: number bias (k + 36) ((n - t) / (36 - t))
termination_by n
decreasing_by
  have : 1 ≤ threshold bias k := by simp only [threshold]; omega
  exact Nat.lt_of_le_of_lt (Nat.div_le_self _ _) (by omega)

/-- A distance read from its digits, and what follows them. The weight of a
    digit has to fit into thirty-two bits. -/
def readNumber? (bias k weight : Nat) : List Char → Option (Nat × List Char)
  | [] => none
  | c :: rest => do
    let d ← digitValue? c
    let t := threshold bias k
    if d < t then some (d * weight, rest)
    else if Nat.pow 2 32 ≤ weight * (36 - t) then none
    else do
      let (n, rest) ← readNumber? bias (k + 36) (weight * (36 - t)) rest
      some (d * weight + n, rest)

theorem readNumber?_length {bias k weight : Nat} {text : List Char} {n : Nat} {rest : List Char}
    (h : readNumber? bias k weight text = some (n, rest)) : rest.length < text.length := by
  induction text generalizing k weight n rest with
  | nil => simp [readNumber?] at h
  | cons c text ih =>
    simp only [readNumber?, Option.bind_eq_bind, Option.bind_eq_some_iff] at h
    obtain ⟨d, _, h⟩ := h
    split at h
    · simp only [Option.some.injEq, Prod.mk.injEq] at h
      simp [← h.2]
    · split at h
      · simp at h
      · simp only [Option.bind_eq_some_iff] at h
        obtain ⟨⟨m, behind⟩, hread, h⟩ := h
        simp only [Option.some.injEq, Prod.mk.injEq] at h
        have := ih hread
        rw [← h.2, List.length_cons]
        omega

/-! ### Writing -/

/-- The characters outside ASCII of the rest of a text, each with its place
    among the characters before it that are not higher. -/
def placesFrom (before : List Char) : List Char → List (Nat × Nat)
  | [] => []
  | c :: rest =>
    let places := placesFrom (c :: before) rest
    if c.toNat < 0x80 then places
    else (c.toNat, (before.filter fun d => d.toNat ≤ c.toNat).length) :: places

/-- The steps that put characters back, in digits, behind a step for the code
    point `point` at the place before `place`. -/
def writeFrom (bias point place count : Nat) (isFirst : Bool) : List (Nat × Nat) → List Char
  | [] => []
  | (n, i) :: rest =>
    let delta := (n - point) * (count + 1) + i - place
    number bias 36 delta
      ++ writeFrom (adapt delta (count + 1) isFirst) n (i + 1) (count + 1) false rest

/-- A text in ASCII. -/
def encode (text : List Char) : List Char :=
  let plain := text.filter fun c => c.toNat < 0x80
  let places := (placesFrom [] text).mergeSort fun a b => a.1 ≤ b.1
  plain ++ (if plain.isEmpty then [] else ['-']) ++ writeFrom 72 0x80 0 plain.length true places

/-! ### Reading -/

/-- Whether a number is the code point of a character. -/
def isCodePoint (n : Nat) : Bool :=
  n < 0xD800 || (0xDFFF < n && n < 0x110000)

/-- A text with the characters put back that digits give. -/
def readFrom? (bias point place : Nat) (isFirst : Bool) (text digits : List Char) :
    Option (List Char) :=
  match digits with
  | [] => some text
  | c :: behind =>
    match h : readNumber? bias 36 1 (c :: behind) with
    | none => none
    | some (delta, rest) =>
      let count := text.length + 1
      let n := point + (place + delta) / count
      let i := (place + delta) % count
      if isCodePoint n then
        readFrom? (adapt delta count isFirst) n (i + 1) false (text.insertIdx i (Char.ofNat n)) rest
      else none
termination_by digits.length
decreasing_by exact readNumber?_length h

/-- The text that was written in ASCII. -/
def decode? (code : List Char) : Option (List Char) :=
  let back := code.reverse
  let digits := (back.takeWhile (· != '-')).reverse
  let plain := (back.dropWhile (· != '-')).drop 1
  if plain.any fun c => 0x80 ≤ c.toNat then none
  else if plain.isEmpty then readFrom? 72 0x80 0 true [] code
  else readFrom? 72 0x80 0 true plain.reverse digits

end Punycode

end Url

end TableClient
