/-!
# Levels

How grave an event is, and how much is shown.

A limit is the rank of the least grave level that is shown, or zero if nothing
is. It is given by its number or by the name of the level.

## Main definitions

* `Level`: How grave an event is.
* `Limit`: How much is shown.
* `limit?`: The limit a text gives.
-/

namespace TableClient

namespace Log

/-- How grave an event is. -/
inductive Level where
  | error
  | warn
  | info
  | debug
  | trace
deriving DecidableEq, Repr

/-- The place of a level, the gravest first. -/
def Level.rank : Level → Nat
  | .error => 1
  | .warn => 2
  | .info => 3
  | .debug => 4
  | .trace => 5

/-- The name of a level, filled up to five characters. -/
def Level.label : Level → String
  | .error => "ERROR"
  | .warn => " WARN"
  | .info => " INFO"
  | .debug => "DEBUG"
  | .trace => "TRACE"

/-- How much is shown: all events up to a rank. -/
abbrev Limit :=
  Nat

/-- The limit a number or a name gives, in letters of either case. -/
def limit? (text : String) : Option Limit :=
  let digits := match text.toList with
    | '+' :: digits => digits
    | digits => digits
  if !digits.isEmpty && digits.all Char.isDigit then
    let n := digits.foldl (fun n c => n * 10 + (c.toNat - 48)) 0
    if n ≤ 5 then some n else none
  else
    match (String.ofList (text.toList.map Char.toLower)) with
    | "off" => some 0
    | "" => some Level.error.rank
    | "error" => some Level.error.rank
    | "warn" => some Level.warn.rank
    | "info" => some Level.info.rank
    | "debug" => some Level.debug.rank
    | "trace" => some Level.trace.rank
    | _ => none

end Log

end TableClient
