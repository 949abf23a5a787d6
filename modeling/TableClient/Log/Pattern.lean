import TableClient.Text.Alphanumeric
import TableClient.Text.Blank
import TableClient.Text.Hex

/-!
# Patterns

Regular expressions for the values of fields.

A pattern is made of characters, classes of characters in brackets, the dot,
groups, alternatives and repetitions. A text matches if the pattern can be
followed from some place in it to its end. The ways of doing so have a fixed
order: an earlier start comes before a later one, the first alternative before
the second, and going round once more before going on, unless a question mark
behind the repetition says the opposite. A way that is complete before the end
of the text ends all the ways behind it, so that neither `a|ab` nor `a` matches
`aba`, while `ba` does.

Flags, classes in classes and counted repetitions are not read.

## Main definitions

* `CharClass`: A class of characters.
* `Pattern`: A pattern.
* `Pattern.ofText?`: The pattern a text spells.
* `Pattern.heads`: The next characters of all the ways through a pattern.
* `Pattern.accepts`: Whether a text matches.
-/

namespace TableClient

namespace Log

/-! ### Classes -/

/-- Characters that belong to a class. -/
inductive Member where
  | range (first last : Char)
  | digit
  | blank
  | word
deriving DecidableEq, Repr

/-- Whether a character is among those of a member. -/
def Member.has : Member → Char → Bool
  | .range first last, c => first ≤ c && c ≤ last
  | .digit, c => c.isDigit
  | .blank, c => Text.isBlank c
  | .word, c => Text.isAlphanumeric c || c == '_'

/-- Members of a class, or all characters but them. -/
structure CharClass where
  isInverse : Bool
  members : List (Bool × Member)
deriving DecidableEq, Repr

namespace CharClass

/-- The class of one character. -/
def only (c : Char) : CharClass :=
  ⟨false, [(true, .range c c)]⟩

/-- The class of all characters. -/
def any : CharClass :=
  ⟨true, []⟩

/-- The class of all characters that do not end a line. -/
def dot : CharClass :=
  ⟨true, [(true, .range '\n' '\n')]⟩

/-- Whether a character is in a class. A member counts for its characters or,
    if it is marked so, for all others. -/
def has (charClass : CharClass) (c : Char) : Bool :=
  let isMember := charClass.members.any fun (isPlain, member) => member.has c == isPlain
  isMember != charClass.isInverse

end CharClass

/-! ### Patterns -/

/-- A pattern. -/
inductive Pattern where
  /-- The empty text. -/
  | nothing
  /-- The start of the text. -/
  | start
  /-- The end of the text. -/
  | stop
  /-- A character of a class. -/
  | one (charClass : CharClass)
  | seq (front back : Pattern)
  | either (first second : Pattern)
  /-- A pattern any number of times, more often rather than less or the other
      way round. -/
  | many (isGreedy : Bool) (inner : Pattern)
deriving DecidableEq, Repr

namespace Pattern

/-- The ways through a pattern in order, each with the class of its next
    character and what comes then. A way without a next character is
    complete. -/
def heads (atStart atStop : Bool) : Pattern → List (Option (CharClass × Pattern))
  | nothing => [none]
  | start => if atStart then [none] else []
  | stop => if atStop then [none] else []
  | one charClass => [some (charClass, nothing)]
  | seq front back =>
    (heads atStart atStop front).flatMap fun head =>
      match head with
      | none => heads atStart atStop back
      | some (charClass, rest) => [some (charClass, seq rest back)]
  | either first second => heads atStart atStop first ++ heads atStart atStop second
  | many isGreedy inner =>
    let again := (heads atStart atStop inner).map fun head =>
      head.map fun (charClass, rest) => (charClass, seq rest (many isGreedy inner))
    if isGreedy then again ++ [none] else none :: again

/-- Whether one of some ways leads to the end of a text. -/
def leads (atStart : Bool) (ways : List Pattern) : List Char → Bool
  | [] => (ways.flatMap (heads atStart true)).contains none
  | c :: rest =>
    let going := (ways.flatMap (heads atStart false)).takeWhile Option.isSome
    let ways := going.filterMap fun head =>
      head.bind fun (charClass, way) => if charClass.has c then some way else none
    leads false ways.eraseDups rest

/-- Whether a text matches a pattern. -/
def accepts (pattern : Pattern) (text : String) : Bool :=
  leads true [seq (many false (one .any)) pattern] text.toList

/-! ### Reading -/

/-- The character of some hexadecimal digits, and what follows them. -/
def readCode? (count : Nat) (text : List Char) : Option (Char × List Char) := do
  let digits := text.take count
  if digits.length < count then none
  let n ← digits.foldlM (fun n c => (Text.hexValue? c).map (16 * n + ·)) 0
  if n.isValidChar then some (Char.ofNat n, text.drop count) else none

/-- What stands behind a backslash, as a member of a class, and what follows
    it. -/
def readEscape? : List Char → Option ((Bool × Member) × List Char)
  | [] => none
  | c :: rest =>
    let char (c : Char) (rest : List Char) := some ((true, Member.range c c), rest)
    match c with
    | 'd' => some ((true, .digit), rest)
    | 'D' => some ((false, .digit), rest)
    | 's' => some ((true, .blank), rest)
    | 'S' => some ((false, .blank), rest)
    | 'w' => some ((true, .word), rest)
    | 'W' => some ((false, .word), rest)
    | 'n' => char '\n' rest
    | 't' => char '\t' rest
    | 'r' => char '\r' rest
    | 'a' => char '\x07' rest
    | 'v' => char '\x0b' rest
    | 'f' => char '\x0c' rest
    | 'x' => (readCode? 2 rest).bind fun (c, rest) => char c rest
    | 'u' => (readCode? 4 rest).bind fun (c, rest) => char c rest
    | 'U' => (readCode? 8 rest).bind fun (c, rest) => char c rest
    | c =>
      if c.toNat < 0x80 && !c.isAlphanum && c != '<' && c != '>' then char c rest else none

/-- A member of a class in brackets, and what follows it. -/
def readMember? : List Char → Option ((Bool × Member) × List Char)
  | '\\' :: rest => readEscape? rest
  | '[' :: _ => none
  | c :: rest => some ((true, .range c c), rest)
  | [] => none

/-- The members of a class up to its closing bracket, and what follows it. -/
def readMembers? : Nat → List Char → Option (List (Bool × Member) × List Char)
  | _, ']' :: rest => some ([], rest)
  | 0, _ => none
  | fuel + 1, text => do
    let (member, rest) ← readMember? text
    let (member, rest) ←
      match member, rest with
      | (true, .range first _), '-' :: c :: rest =>
        if c == ']' then some (member, '-' :: c :: rest)
        else
          match readMember? (c :: rest) with
          | some ((true, .range last _), rest) =>
            if first ≤ last then some ((true, Member.range first last), rest) else none
          | _ => none
      | _, rest => some (member, rest)
    let (members, rest) ← readMembers? fuel rest
    some (member :: members, rest)

/-- A class behind its opening bracket, and what follows it. A bracket or
    hyphens at its start are members. -/
def readClass? (text : List Char) : Option (CharClass × List Char) := do
  let (isInverse, text) := match text with
    | '^' :: rest => (true, rest)
    | text => (false, text)
  let (first, text) := match text with
    | ']' :: rest => ([(true, Member.range ']' ']')], rest)
    | '-' :: rest => ([(true, Member.range '-' '-')], rest.dropWhile (· == '-'))
    | text => ([], text)
  let (members, rest) ← readMembers? text.length text
  some (⟨isInverse, first ++ members⟩, rest)

/-- A text behind the head of a group: groups may have names. -/
def dropGroupHead? : List Char → Option (List Char)
  | '?' :: ':' :: rest => some rest
  | '?' :: 'P' :: '<' :: rest => dropName? rest
  | '?' :: '<' :: rest => dropName? rest
  | '?' :: _ => none
  | rest => some rest
where
  /-- A text behind a name and the sign that ends it. -/
  dropName? (text : List Char) : Option (List Char) :=
    match text.dropWhile (· != '>') with
    | _ :: rest => if text.head? == some '>' then none else some rest
    | [] => none

/-- A pattern with the repetitions that follow it, and what follows them. -/
def readRepeats (pattern : Pattern) : List Char → Pattern × List Char
  | '*' :: '?' :: rest => readRepeats (many false pattern) rest
  | '*' :: rest => readRepeats (many true pattern) rest
  | '+' :: '?' :: rest => readRepeats (seq pattern (many false pattern)) rest
  | '+' :: rest => readRepeats (seq pattern (many true pattern)) rest
  | '?' :: '?' :: rest => readRepeats (either nothing pattern) rest
  | '?' :: rest => readRepeats (either pattern nothing) rest
  | rest => (pattern, rest)

mutual

/-- Alternatives up to the end of a group or of the text, and what follows
    them. -/
def readEither? : Nat → List Char → Option (Pattern × List Char)
  | 0, _ => none
  | fuel + 1, text => do
    let (first, rest) ← readSeq? fuel text
    match rest with
    | '|' :: rest => do
      let (second, rest) ← readEither? fuel rest
      some (either first second, rest)
    | rest => some (first, rest)

/-- A row of patterns up to the end of an alternative, and what follows it. -/
def readSeq? : Nat → List Char → Option (Pattern × List Char)
  | 0, _ => none
  | fuel + 1, text =>
    match text with
    | [] => some (nothing, [])
    | '|' :: _ => some (nothing, text)
    | ')' :: _ => some (nothing, text)
    | text => do
      let (front, rest) ← readOne? fuel text
      let (front, rest) := readRepeats front rest
      let (back, rest) ← readSeq? fuel rest
      some (seq front back, rest)

/-- One pattern without its repetitions, and what follows it. -/
def readOne? : Nat → List Char → Option (Pattern × List Char)
  | 0, _ => none
  | fuel + 1, text =>
    match text with
    | [] => none
    | '^' :: rest => some (start, rest)
    | '$' :: rest => some (stop, rest)
    | '.' :: rest => some (one .dot, rest)
    | '[' :: rest => (readClass? rest).map fun (charClass, rest) => (one charClass, rest)
    | '\\' :: 'A' :: rest => some (start, rest)
    | '\\' :: 'z' :: rest => some (stop, rest)
    | '\\' :: rest => (readEscape? rest).map fun (member, rest) => (one ⟨false, [member]⟩, rest)
    | '(' :: rest => do
      let (inner, rest) ← readEither? fuel (← dropGroupHead? rest)
      match rest with
      | ')' :: rest => some (inner, rest)
      | _ => none
    | c :: rest =>
      if "*+?\x7b".toList.contains c then none else some (one (.only c), rest)

end

/-- The pattern a text spells. -/
def ofText? (text : String) : Option Pattern := do
  let chars := text.toList
  let (pattern, rest) ← readEither? (3 * chars.length + 3) chars
  if rest.isEmpty then some pattern else none

end Pattern

end Log

end TableClient
