import TableClient.Log.Directive

/-!
# Log Filters

Which events are shown.

A filter is a list of directives, given as texts parted by commas; empty texts
do not count, and without any directive only errors are shown.

Among the directives that are for an event, the one with the longest target
decides, then one that names a field, and of two that are for the same the
later one. Apart from that an event is shown if it happens within a span and a
directive for that span allows it: there the one that shows most decides.

## Main definitions

* `Scope`: A span that events happen in.
* `Filter`: Directives together.
* `Filter.ofText?`: The filter a text spells.
* `Filter.shows`: Whether an event is shown wherever it happens.
* `Filter.limitWithin?`: How much is shown within a span on its account.
* `Filter.showsScope`: Whether a span is named where its events are shown.
-/

namespace TableClient

namespace Log

/-- A span that events happen in. -/
structure Scope where
  target : String
  name : String
  level : Level
  /-- The fields of the span with their values. -/
  fields : List (String × String)
deriving DecidableEq, Repr

namespace Directive

/-- Whether a directive is for a target. -/
def covers (target : String) (directive : Directive) : Bool :=
  directive.target.all fun start => start.toList.isPrefixOf target.toList

/-- Whether a directive can decide about an event wherever it happens. -/
def isGeneral (directive : Directive) : Bool :=
  directive.span.isNone && directive.field.all fun field => field.value.isNone

/-- Whether a directive is for something within spans. -/
def isLocal (directive : Directive) : Bool :=
  directive.span.isSome || directive.field.isSome

/-- Whether a directive is for a span, whatever the values of its fields. -/
def isFor (scope : Scope) (directive : Directive) : Bool :=
  directive.covers scope.target && directive.span.all (· == scope.name)
    && directive.field.all fun field => scope.fields.any (·.1 == field.name)

/-- Whether the values of the fields of a span are those of a directive. -/
def fits (scope : Scope) (directive : Directive) : Bool :=
  match directive.field with
  | some ⟨name, some value⟩ =>
    scope.fields.any fun (field, text) => field == name && value.allows text
  | _ => true

/-- Whether two directives are for the same. -/
def isTwin (a b : Directive) : Bool :=
  a.target == b.target && a.span == b.span && a.field == b.field

/-- The length of the target of a directive; it is zero without one. -/
def targetSize (directive : Directive) : Nat :=
  (directive.target.map fun target => target.utf8ByteSize + 1).getD 0

/-- Whether the first of two directives is the more special one. -/
def isMoreSpecial (a b : Directive) : Bool :=
  if a.targetSize == b.targetSize then
    match a.field, b.field with
    | some f, some g => g.name < f.name
    | some _, none => true
    | none, _ => false
  else b.targetSize < a.targetSize

/-- The one of two directives that decides: the more special one, or else the
    later one. -/
def stronger (earlier later : Directive) : Directive :=
  if isMoreSpecial earlier later then earlier else later

end Directive

/-- Directives together. -/
abbrev Filter :=
  List Directive

namespace Filter

/-- The filter that shows everything from one target up to a level. -/
def only (target : String) (level : Level) : Filter :=
  [⟨some target, none, none, level.rank⟩]

/-- The filter that shows everything up to a level. -/
def upTo (level : Level) : Filter :=
  [⟨none, none, none, level.rank⟩]

/-- The filter a text spells. -/
def ofText? (text : String) : Option Filter := do
  let parts := (Text.split (· == ',') text.toList).filter fun part => !part.isEmpty
  let directives ← parts.mapM fun part => Directive.ofText? (.ofList part)
  some (if directives.isEmpty then upTo .error else directives)

/-- The one of some directives that decides. -/
def deciding? : List Directive → Option Directive
  | [] => none
  | first :: rest => some (rest.foldl Directive.stronger first)

/-- Whether an event is shown wherever it happens, given the names of its
    fields. -/
def shows (filter : Filter) (target : String) (fields : List String) (level : Level) : Bool :=
  let directives := filter.filter fun directive =>
    directive.isGeneral && directive.covers target
      && directive.field.all fun field => fields.contains field.name
  (deciding? directives).any fun directive => level.rank ≤ directive.limit

/-- How much is shown within a span on account of the directives that are for
    it, if there are any. -/
def limitWithin? (filter : Filter) (scope : Scope) : Option Limit :=
  match (lastOfTwins filter).filter fun directive => directive.isLocal && directive.isFor scope with
  | [] => none
  | directives =>
    some (((directives.filter (·.fits scope)).map Directive.limit).foldl max 0)
where
  /-- Directives without those that a later one replaces. -/
  lastOfTwins : List Directive → List Directive
    | [] => []
    | directive :: rest =>
      if rest.any directive.isTwin then lastOfTwins rest else directive :: lastOfTwins rest

/-- Whether a span is named where its events are shown. It has to be shown
    itself, where fields do not count. -/
def showsScope (filter : Filter) (scope : Scope) : Bool :=
  let directives := filter.filter fun directive =>
    directive.isGeneral && directive.covers scope.target
  (filter.limitWithin? scope).isSome
    || (deciding? directives).any fun directive => scope.level.rank ≤ directive.limit

/-- Whether an event that happens within a span is shown. -/
def showsWithin (filter : Filter) (scope : Scope) (fields : List String) (level : Level) : Bool :=
  filter.shows scope.target fields level
    || (filter.limitWithin? scope).any fun limit => level.rank ≤ limit

end Filter

end Log

end TableClient
