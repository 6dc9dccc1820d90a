import StreamRemote.LogFilter.Directive

/-!
# Log filters

A log filter is a list of directives, separated by commas. The most specific one that applies
decides; of several that differ in nothing but their level the last one counts. Directives that
depend on spans are kept apart from those that do not.
-/

namespace StreamRemote

/-- Directives, the most specific first, with the highest level among all that were ever put
in. -/
structure DirectiveTable where
  directives : List Directive
  maxLevel : LogLevel
deriving DecidableEq, Repr

namespace DirectiveTable

/-- The table without directives. -/
def empty : DirectiveTable := ⟨[], .off⟩

/-- Puts a directive in its place, instead of one that differs in nothing but its level. -/
def insertSorted (d : Directive) : List Directive → List Directive
  | [] => [d]
  | e :: rest =>
    match d.order e with
    | .gt => d :: e :: rest
    | .eq => d :: rest
    | .lt => e :: insertSorted d rest

/-- Puts a directive into a table. -/
def insert (table : DirectiveTable) (d : Directive) : DirectiveTable where
  directives := insertSorted d table.directives
  maxLevel := table.maxLevel.sup d.level

/-- The table of some directives. -/
def ofList (directives : List Directive) : DirectiveTable :=
  directives.foldl insert empty

end DirectiveTable

/-- What is logged. -/
structure LogFilter where
  statics : DirectiveTable
  dynamics : DirectiveTable
deriving DecidableEq, Repr

/-- A text that is no log filter, and why. -/
structure InvalidLogFilter where
  text : String
  cause : DirectiveError
deriving DecidableEq, Repr

/-- The wording of the error. -/
def InvalidLogFilter.message (e : InvalidLogFilter) : String :=
  "Invalid log filter '" ++ e.text ++ "': " ++ e.cause.message

namespace LogFilter

/-- The filter of some directives. What depends on spans, but on neither their names nor the
values of their fields, is in both tables. -/
def ofDirectives (directives : List Directive) : LogFilter :=
  let dynamics := directives.filter Directive.isDynamic
  let plain := directives.filter fun d => !d.isDynamic
  ⟨.ofList (plain ++ dynamics.filter Directive.isStatic), .ofList dynamics⟩

/-- The texts of the directives in a text. Empty ones do not count. -/
def pieces (text : String) : List (List Char) :=
  (Text.splitAtEach ',' text.toList).filter (!·.isEmpty)

/-- Reads a log filter. -/
def parse (text : String) : Except InvalidLogFilter LogFilter :=
  match (pieces text).mapM Directive.read with
  | .ok directives => .ok (ofDirectives directives)
  | .error cause => .error ⟨text, cause⟩

/-- The text of a log filter. -/
def render (filter : LogFilter) : String :=
  String.intercalate ","
    ((filter.statics.directives ++ filter.dynamics.directives).map Directive.render)

/-- The most that the filter may let through. A filter that asks for values of fields has to look
at every span first. -/
def maxLevel (filter : LogFilter) : LogLevel :=
  if filter.dynamics.directives.any Directive.asksForValue then .trace
  else filter.statics.maxLevel.sup filter.dynamics.maxLevel

/-- The filter lets through what is of interest to developers only. -/
def isVerbose (filter : LogFilter) : Bool :=
  LogLevel.debug.number ≤ filter.maxLevel.number

end LogFilter

end StreamRemote
