import TableQuery.Query.Parser
import TableQuery.Report

/-!
# Running queries on text

An engine reads a text as a table, carries out a query on it and reports. In a session the queries
run one after the other, each on the text that the changes before it have left.

* `Engine.run`: the report of one query;
* `Engine.session`: the reports of many, and the text in the end;
* `Query.answer`: one query on a table in memory.
-/

namespace TableQuery

open Query (Answer Outcome PatternLibrary QueryError)

variable [PatternLibrary]

/-- Carries out a query on a table in memory. -/
def Query.answer (fuzzy : Bool) (table : Table) (query : String) : Outcome (Answer × Table) := do
  let statement ← Outcome.ofExcept (Query.parse query)
  Query.execute fuzzy table statement

structure Engine where
  codec : Csv.Codec
  fuzzyColumns : Bool
deriving DecidableEq, Repr

namespace Engine

def ofSettings (settings : Settings) : Engine :=
  ⟨.ofSettings settings, settings.fuzzyColumns⟩

/-- The table of a text. -/
def decode (engine : Engine) (text : String) : Except QueryError Table :=
  (engine.codec.decode text).mapError .codec

/-- Carries out a query on a text. -/
def answer (engine : Engine) (text query : String) : Outcome (Answer × Table) := do
  if Text.allBlank text then Outcome.fail .emptyTable
  if Text.allBlank query then Outcome.fail .emptyQuery
  let statement ← Outcome.ofExcept (Query.parse query)
  let table ← Outcome.ofExcept (engine.decode text)
  Query.execute engine.fuzzyColumns table statement

/-- The report of a query on a text, but for the remarks. -/
def outcome (engine : Engine) (text query : String) : Outcome Report := do
  let (answer, after) ← engine.answer text query
  Outcome.ofExcept (Report.ofAnswer engine.codec text answer after)

/-- Runs a query on a text. -/
def run (engine : Engine) (text query : String) : Report :=
  let outcome := engine.outcome text query
  let remarks := outcome.diagnostics.map Query.Diagnostic.message
  match outcome.result with
  | .ok report => { report with diagnostics := remarks }
  | .error error => .failure (Query.kindOf? query) text error remarks

/-- The text that is current after a report on a text. A selection leaves the text alone. -/
def nextText (text : String) (report : Report) : String :=
  if report.isProjection then text else report.resultText

/-- Runs queries one after the other: their reports, and the text that is left. -/
def session (engine : Engine) (text : String) : List String → List Report × String
  | [] => ([], text)
  | query :: rest =>
    let report := engine.run text query
    let (reports, final) := session engine (nextText text report) rest
    (report :: reports, final)

end Engine

end TableQuery
