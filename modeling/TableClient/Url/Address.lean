import TableClient.Url.Host
import TableClient.Url.User

/-!
# Addresses

Reading an address from a text, and writing it in its normal form.

An address starts with a scheme. The schemes of the web are special: their
addresses always have a host, a backslash is as good as a slash, and the
`portNumber` that goes with the scheme is left out. The scheme `file` has a
host only where one is named, and none on a drive; empty segments in front of
its path do not count. Any other scheme has a host behind two slashes, a path
in segments behind one, and a path without structure otherwise.

Blanks and control characters around an address do not count, nor do
tabulators and line breaks inside it.

## Main definitions

* `SchemeKind`: How the rest of an address is read.
* `Address`: An address.
* `Address.ofText?`: The address a text spells.
* `Address.text`: The normal form of an address.
-/

namespace TableClient

namespace Url

/-- How the rest of an address is read. -/
inductive SchemeKind where
  | web
  | file
  | other
deriving DecidableEq, Repr

/-- The kind of a scheme. -/
def schemeKind : String → SchemeKind
  | "http" | "https" | "ws" | "wss" | "ftp" => .web
  | "file" => .file
  | _ => .other

/-- The `portNumber` that goes with a scheme and is left out. -/
def usualPortNumber? : String → Option Nat
  | "http" | "ws" => some 80
  | "https" | "wss" => some 443
  | "ftp" => some 21
  | _ => none

/-- An address. -/
structure Address where
  scheme : String
  /-- Whether two slashes stand behind the scheme. -/
  slashes : Bool
  user : User
  host : Option Host
  portNumber : Option Nat
  path : Path
  /-- The question mark and what follows it up to the fragment. -/
  query : List Char
  /-- The number sign and what follows it. -/
  fragment : List Char
deriving DecidableEq, Repr

namespace Address

/-- What stands between a scheme and a path. A path that starts with two
    slashes would be taken for a host if nothing stood there. -/
def authority (address : Address) : List Char :=
  if address.slashes then
    '/' :: '/' :: address.user.text ++ (address.host.map Host.text).getD []
      ++ (address.portNumber.map fun number => ':' :: Nat.toDigits 10 number).getD []
  else if ['/', '/'].isPrefixOf address.path.text then ['/', '.']
  else []

/-- The normal form of an address. -/
def text (address : Address) : String :=
  .ofList
    (address.scheme.toList ++ ':' :: address.authority ++ address.path.text ++ address.query
      ++ address.fragment)

/-- The scheme of a text, in lower case, and what follows its colon. -/
def scheme? : List Char → Option (String × List Char)
  | [] => none
  | first :: rest =>
    let isPart (c : Char) : Bool := c.isAlphanum || c == '+' || c == '-' || c == '.'
    match rest.dropWhile isPart with
    | ':' :: behind =>
      if first.isAlpha then
        some (.ofList ((first :: rest.takeWhile isPart).map Char.toLower), behind)
      else none
    | _ => none

/-- The characters that part segments. -/
def isSlash (kind : SchemeKind) (c : Char) : Bool :=
  c == '/' || (kind != .other && c == '\\')

/-- The characters that end the authority of an address. -/
def endsAuthority (kind : SchemeKind) (c : Char) : Bool :=
  isSlash kind c || c == '?' || c == '#'

/-- A text cut at the last sign `@` in it. -/
def cutAtUser (text : List Char) : Option (List Char × List Char) :=
  let back := text.reverse
  match back.dropWhile (· != '@') with
  | [] => none
  | _ :: before => some (before.reverse, (back.takeWhile (· != '@')).reverse)

/-- A text cut at the colon behind a host; colons in brackets do not
    count. -/
def cutBehindHost (inBrackets : Bool) : List Char → List Char × List Char
  | [] => ([], [])
  | c :: rest =>
    if c == ':' && !inBrackets then ([], c :: rest)
    else
      let inBrackets := if c == '[' then true else if c == ']' then false else inBrackets
      let (host, behind) := cutBehindHost inBrackets rest
      (c :: host, behind)

/-- The `portNumber` behind its colon, and what follows it: none where there
    are no digits, nor where it is the usual one. A backslash may follow. -/
def portNumber? (usual : Option Nat) : List Char → Option (Option Nat × List Char)
  | [] => some (none, [])
  | _ :: text => do
    let digits := text.takeWhile Char.isDigit
    let rest := text.dropWhile Char.isDigit
    let number ← Host.numberOf? 10 digits
    if 65535 < number || !rest.head?.all (· == '\\') then none
    else some (if digits.isEmpty || usual == some number then none else some number, rest)

/-- The query and the fragment behind a path. -/
def tails (kind : SchemeKind) (text : List Char) : List Char × List Char :=
  let query := text.takeWhile (· != '#')
  let fragment := text.dropWhile (· != '#')
  let marks := if kind == .other then " \"#<>" else " \"#<>'"
  (encodeWith (plainExcept marks) (Text.utf8 query),
    fragment.take 1 ++ encodeWith (plainExcept " \"<>`") (Text.utf8 (fragment.drop 1)))

/-- Whether a character ends a path. -/
def endsPath (c : Char) : Bool :=
  c == '?' || c == '#'

/-- The path in segments of a text, with or without its first slash. Special
    schemes have a path always. -/
def pathOf (kind : SchemeKind) (text : List Char) : Path :=
  match text with
  | [] => if kind == .other then .segments [] else .segments [[]]
  | c :: rest => .ofSegments (isSlash kind) (if isSlash kind c then rest else text)

/-- The address of a text behind the two slashes in front of its host. -/
def ofAuthority? (scheme : String) (text : List Char) : Option Address := do
  let kind := schemeKind scheme
  let authority := text.takeWhile fun c => !endsAuthority kind c
  let rest := text.dropWhile fun c => !endsAuthority kind c
  let (userText, place) := (cutAtUser authority).getD ([], authority)
  let (hostText, behind) := cutBehindHost false place
  let host ← if kind == .web then Host.ofName? hostText else Host.ofText? hostText
  let noHost := hostText.isEmpty
  let user := User.ofText userText
  if noHost && !(user == .nobody && behind.isEmpty) then none
  if authority == ['@'] && !rest.isEmpty then none
  let (portNumber, behind) ← portNumber? (usualPortNumber? scheme) behind
  let path := behind ++ rest.takeWhile fun c => !endsPath c
  let (query, fragment) := tails kind (rest.dropWhile fun c => !endsPath c)
  some
    { scheme, user, portNumber, query, fragment
      slashes := true
      host := if noHost then none else some host
      path := pathOf kind path }

/-- The drive that a segment names, with a colon. -/
def drive? (segment : List Char) : Option (List Char) :=
  match segment with
  | [letter, _] => if startsWithDrive segment then some [letter, ':'] else none
  | _ => none

/-- The host and the path of a file, cut apart. A host stands behind exactly
    two slashes, and a drive is none. The slash in front of the path stays
    only behind these two. -/
def cutFile (text : List Char) : List Char × List Char :=
  match text with
  | a :: b :: rest =>
    if isSlash .file a && isSlash .file b then
      let host := rest.takeWhile fun c => !isSlash .file c
      if (drive? (unbroken host)).isSome then ([], rest)
      else (host, rest.dropWhile fun c => !isSlash .file c)
    else if isSlash .file a then ([], b :: rest)
    else ([], text)
  | [a] => ([], if isSlash .file a then [] else text)
  | [] => ([], [])

/-- The host of a file: this computer needs no name. -/
def fileHost? (text : List Char) : Option (Option Host) :=
  if text.isEmpty then some none
  else
    (Host.ofName? text).map fun host =>
      if host == .name "localhost".toList then none else some host

/-- The address of a file behind the colon of its scheme, from a text that
    keeps the breaks a drive may end at. Without a host the slash in front of
    the path makes an empty segment of its own. A drive that is a segment of
    its own leaves no host. -/
def ofFile? (text : List Char) : Option Address := do
  let (hostText, path) := cutFile (text.takeWhile fun c => !endsPath c)
  let (query, fragment) := tails .file (unbroken (text.dropWhile fun c => !endsPath c))
  let host ← fileHost? (unbroken hostText)
  let path := if host.isSome then path.drop 1 else path
  let segments := removeDots (Text.split (isSlash .file) path)
  let drive := segments.head?.bind drive?
  let segments := match drive with
    | some drive => drive :: segments.tail
    | none => segments.dropWhile List.isEmpty
  some
    { scheme := "file"
      slashes := true
      user := .nobody
      portNumber := none
      query, fragment
      host := if drive.isSome then none else host
      path := .segments
        (if segments.isEmpty then [[]] else segments.map (encodeSegment ∘ unbroken)) }

/-- The address without a host of a text behind the colon of its scheme. -/
def ofPath (scheme : String) (text : List Char) : Address :=
  let path := text.takeWhile fun c => !endsPath c
  let (query, fragment) := tails .other (text.dropWhile fun c => !endsPath c)
  { scheme, query, fragment
    slashes := false
    user := .nobody
    host := none
    portNumber := none
    path := match path with
      | '/' :: _ => pathOf .other path
      | path => .plain (encodeWith isPlainByte (Text.utf8 path)) }

/-- The part of a text that counts as an address, with its breaks. -/
def core (text : List Char) : List Char :=
  let isEdge (c : Char) : Bool := c.toNat ≤ 0x20
  ((text.dropWhile isEdge).reverse.dropWhile isEdge).reverse

/-- The address a text spells. -/
def ofText? (text : String) : Option Address := do
  let core := core text.toList
  let (scheme, rest) ← scheme? (unbroken core)
  match schemeKind scheme with
  | .web => ofAuthority? scheme (rest.dropWhile (isSlash .web))
  | .file => ofFile? (brokenAtDrives false ((core.dropWhile (· != ':')).drop 1))
  | .other =>
    match rest with
    | '/' :: '/' :: rest => ofAuthority? scheme rest
    | rest => some (ofPath scheme rest)

end Address

end Url

end TableClient
