import TableClient.Json.Parse

/-!
# Skipping JSON

Reading past a value that nobody asked for.

A value that is only skipped is looked at less closely than one that is kept.
It may nest arbitrarily deep, its numbers may have any size, and its escapes
may name half of a surrogate pair. What is between two commas is looked at
only after the comma was accepted, so a comma in front of a closing bracket
is noticed as a missing value.

## Main definitions

* `skipString`: Past a string, behind its opening quote.
* `skipNumber`: Past a number.
* `skipValue`: Past a value with a bound on its nesting.
* `skip`: Past a value.
-/

namespace TableClient

namespace Json

/-- Reads past a part of a text. -/
abbrev Skipper :=
  List Char → Except Failure (List Char)

/-- Skips what follows a backslash. -/
def skipEscape : Skipper
  | [] => .error (.before .endInString [])
  | 'u' :: rest => do
    let (_, rest) ← codeUnit rest
    .ok rest
  | c :: rest =>
    match letterEscape? c with
    | some _ => .ok rest
    | none => .error (.behind .invalidEscape (c :: rest))

/-- Skips the characters of a string up to its closing quote, at most as many
    as the bound is long. -/
def skipStringChars : List Char → Skipper
  | [], rest => .error (.before .endInString rest)
  | _ :: _, [] => .error (.before .endInString [])
  | _ :: _, '"' :: rest => .ok rest
  | _ :: bound, '\\' :: rest => do
    let rest ← skipEscape rest
    skipStringChars bound rest
  | _ :: bound, c :: rest =>
    if c.toNat < 0x20 then .error (.before .controlCharacter (c :: rest))
    else skipStringChars bound rest

/-- Skips a string, its opening quote already read. -/
def skipString : Skipper := fun text =>
  skipStringChars text text

/-- Skips digits, of which there is at least one; a missing one is noticed
    behind the byte in its place. -/
def skipDigits : Skipper
  | c :: rest =>
    if c.isDigit then .ok (rest.dropWhile Char.isDigit)
    else .error (.behind .invalidNumber (c :: rest))
  | [] => .error (.behind .invalidNumber [])

/-- Skips an exponent behind its letter. -/
def skipExponent : Skipper
  | '+' :: rest => skipDigits rest
  | '-' :: rest => skipDigits rest
  | rest => skipDigits rest

/-- Skips the exponent of a number, if there is one. -/
def skipBehindFraction : Skipper
  | 'e' :: rest => skipExponent rest
  | 'E' :: rest => skipExponent rest
  | rest => .ok rest

/-- Skips what follows the whole part of a number. -/
def skipBehindWhole : Skipper
  | '.' :: rest => do
    let rest ← skipDigits rest
    skipBehindFraction rest
  | rest => skipBehindFraction rest

/-- Skips a number behind its sign. -/
def skipUnsigned : Skipper
  | '0' :: c :: rest =>
    if c.isDigit then .error (.behind .invalidNumber (c :: rest)) else skipBehindWhole (c :: rest)
  | rest => do
    let rest ← skipDigits rest
    skipBehindWhole rest

/-- Skips a number with or without a sign. -/
def skipNumber : Skipper
  | '-' :: rest => skipUnsigned rest
  | rest => skipUnsigned rest

/-- The front of the next item of an array that is skipped, or `false` behind
    its closing bracket. -/
def nextSkippedItem (first : Bool) : Reader Bool := fun text =>
  match skipBlanks text with
  | [] => .error (.behind .endInArray [])
  | ']' :: rest => .ok (false, rest)
  | ',' :: rest => .ok (true, if first then ',' :: rest else rest)
  | rest => if first then .ok (true, rest) else .error (.behind .expectedArrayEnd rest)

/-- Skips a key. -/
def skipKey : Skipper := fun text =>
  match skipBlanks text with
  | [] => .error (.behind .endInObject [])
  | '"' :: rest => skipString rest
  | rest => .error (.behind .keyNotString rest)

/-- Skips the key of the next member of an object that is skipped, or gives
    `false` behind its closing brace. -/
def nextSkippedKey (first : Bool) : Reader Bool := fun text =>
  match skipBlanks text with
  | [] => .error (.behind .endInObject [])
  | '\x7d' :: rest => .ok (false, rest)
  | rest => do
    let rest ← if first then skipKey rest else
      match rest with
      | ',' :: rest => skipKey rest
      | rest => .error (.behind .expectedObjectEnd rest)
    .ok (true, rest)

/-- Skips the items of an array up to its closing bracket, in at most as many
    rounds as the bound is long. -/
def skipItems (item : Skipper) : List Char → Bool → Skipper
  | [], _, text => .error (.behind .endInArray text)
  | _ :: bound, first, text => do
    let (more, rest) ← nextSkippedItem first text
    if more then
      let rest ← item rest
      skipItems item bound false rest
    else .ok rest

/-- Skips the members of an object up to its closing brace, in at most as many
    rounds as the bound is long. -/
def skipMembers (item : Skipper) : List Char → Bool → Skipper
  | [], _, text => .error (.behind .endInObject text)
  | _ :: bound, first, text => do
    let (more, rest) ← nextSkippedKey first text
    if more then
      let rest ← colon rest
      let rest ← item rest
      skipMembers item bound false rest
    else .ok rest

/-- Skips a value that is neither array nor object, with no blanks in
    front. -/
def skipScalar : Skipper
  | [] => .error (.behind .endInValue [])
  | 'n' :: rest => word "ull".toList rest
  | 't' :: rest => word "rue".toList rest
  | 'f' :: rest => word "alse".toList rest
  | '"' :: rest => skipString rest
  | c :: rest =>
    if c == '-' || c.isDigit then skipNumber (c :: rest)
    else .error (.behind .expectedValue (c :: rest))

/-- Skips a value that nests arrays and objects at most as deep as the bound
    is long. -/
def skipValue : List Char → Skipper
  | [], text => skipScalar (skipBlanks text)
  | _ :: bound, text =>
    match skipBlanks text with
    | '[' :: rest => skipItems (skipValue bound) rest true rest
    | '\x7b' :: rest => skipMembers (skipValue bound) rest true rest
    | rest => skipScalar rest

/-- Skips a value. No text nests deeper than it is long. -/
def skip : Skipper := fun text =>
  skipValue text text

end Json

end TableClient
