import IntentBus.Log.Directive

/-! Log filters: lists of directives that decide which entries are written. -/

namespace IntentBus

namespace LogDirective

/-- Whether a directive speaks of a target. -/
def coversTarget (directive : LogDirective) (source : LogSource) : Bool :=
  directive.target.toList.isPrefixOf source.target.toList

/-- A directive that names a span or a field opens the spans that it fits. -/
def opensSpans (directive : LogDirective) : Bool := directive.span.isSome || directive.field.isSome

/-- Whether a directive asks for the value of a field. -/
def asksValue (directive : LogDirective) : Bool :=
  match directive.field with
  | some (_, demand) => demand ≠ .present
  | none => false

/-- A directive without a span and without a demand for a value speaks of entries wherever they are written. -/
def rulesEntries (directive : LogDirective) : Bool := directive.span.isNone && !directive.asksValue

/-- Whether a directive fits a span: by its target, its name, and a field of the span that meets the demand. -/
def fitsSpan (directive : LogDirective) (span : LogSpan) : Bool :=
  directive.coversTarget span.source && directive.span.all (· = span.name) &&
    directive.field.all fun (name, demand) => (span.fields.lookup name).any demand.accepts

/-- Whether a directive fits an entry: by its target, and a field of the entry, whose message counts as one. -/
def fitsEntry (directive : LogDirective) (entry : LogEntry) : Bool :=
  directive.coversTarget entry.source &&
    directive.field.all fun (name, _) => name = "message" || entry.fields.any (·.1 = name)

/-- Whether two directives speak of the same entries or spans. -/
def sameScope (first second : LogDirective) : Bool :=
  first.target = second.target && first.span = second.span && first.field = second.field

/-- The name of the field that a directive asks for, empty without one. -/
def fieldName (directive : LogDirective) : String := (directive.field.map (·.1)).getD ""

/-- A directive is more specific by the length of its target, then by the name of its field. -/
def moreSpecific (first second : LogDirective) : Bool :=
  second.target.length < first.target.length ||
    (first.target.length = second.target.length && second.fieldName < first.fieldName)

end LogDirective

/-- The directives of a filter, in the order in which they were given. -/
structure LogFilter where
  directives : List LogDirective

namespace LogFilter

/-- Directives without those that a later one of the same scope replaces. -/
def latest : List LogDirective → List LogDirective
  | [] => []
  | directive :: rest => if rest.any directive.sameScope then latest rest else directive :: latest rest

/-- The verbosity up to which spans are followed; all are while a directive asks for the value of a field. -/
def reach (filter : LogFilter) : Nat :=
  if filter.directives.any (·.asksValue) then 5 else (filter.directives.map (·.verbosity)).foldl max 0

/-- The verbosity that a span lends to the entries in it. -/
def spanVerbosity (filter : LogFilter) (span : LogSpan) : Nat :=
  if span.level.verbosity ≤ filter.reach then
    (((latest filter.directives).filter fun directive => directive.opensSpans && directive.fitsSpan span).map
      (·.verbosity)).foldl max 0
  else 0

/-- The most specific directive that fits an entry. -/
def deciding? (filter : LogFilter) (entry : LogEntry) : Option LogDirective :=
  ((latest filter.directives).filter fun directive => directive.rulesEntries && directive.fitsEntry entry).foldl
    (fun best directive =>
      match best with
      | none => some directive
      | some before => if directive.moreSpecific before then some directive else best) none

/-- An entry is written if one of its spans lends it enough verbosity, or else if the most specific directive
that fits it does. -/
def allows (filter : LogFilter) (entry : LogEntry) : Bool :=
  entry.spans.any (fun span => entry.level.verbosity ≤ filter.spanVerbosity span) ||
    (filter.deciding? entry).any fun directive => entry.level.verbosity ≤ directive.verbosity

/-- Reads the directives between commas; without any, errors alone pass. -/
def ofText (text : String) : Except LogFilterError LogFilter := do
  match (text.splitOn ",").filter (!·.isEmpty) with
  | [] => return ⟨[{ LogDirective.unlimited with verbosity := LogLevel.error.verbosity }]⟩
  | parts => return ⟨← parts.mapM LogDirective.ofText⟩

end LogFilter

end IntentBus
