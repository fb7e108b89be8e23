import InteractiveMobs.Catalog.MessageSet
import InteractiveMobs.CommandLine.Help
import InteractiveMobs.Formatting.Code
import InteractiveMobs.Json
import InteractiveMobs.Template.Serialized
import InteractiveMobs.Terminal.Grid
import InteractiveMobs.Terminal.Style

/-!
# Checking a catalog

A report on every message of a catalog: how many arguments it takes, and which directives its
tokens carry. A directive is suspicious if it is not formatting codes alone, because then it
shows up in the message.
-/

namespace InteractiveMobs.CommandLine
set_option autoImplicit false
open Terminal

/-- A message and its template. -/
structure MessageReport where
  key : MessageKey
  template : Template
deriving DecidableEq, Repr

namespace MessageReport

/-- The directives of the message. -/
def directives (report : MessageReport) : List String := report.template.directives.filterMap id

/-- The directives that are not formatting codes alone. -/
def suspicious (report : MessageReport) : List String :=
  report.directives.filter fun directive => !Formatting.isCodeOnly directive

/-- The report as JSON. -/
def toJson (report : MessageReport) : Json :=
  .object [("key", .text report.key.text), ("tokens", .integer report.template.tokenCount),
    ("directives", .list (report.directives.map .text)),
    ("suspicious", .list (report.suspicious.map .text)), ("template", report.template.toJson)]

/-- The cells of the message in the table. -/
def cells (report : MessageReport) : List String :=
  [report.key.text, toString report.template.tokenCount,
    if report.directives.isEmpty then "-" else " ".intercalate report.directives]

/-- A warning for each suspicious directive. -/
def warnings (colored : Bool) (report : MessageReport) : List String :=
  report.suspicious.map fun directive => paint colored .boldYellow "warning:" ++
    s!" {report.key.text}: directive '{directive}' is not made of formatting codes"

end MessageReport

/-- A report on every message of a set, in the order of the keys. -/
def reports (messages : MessageSet) : List MessageReport :=
  messages.templates.entries.map fun e => ⟨e.1, e.2⟩

/-- The reports as a JSON document that says when the catalog was loaded. -/
def reportJson (time : String) (reports : List MessageReport) : String :=
  (Json.object [("loaded_at", .text time),
    ("messages", .list (reports.map MessageReport.toJson))]).pretty

/-- The reports as a table. -/
def reportGrid (reports : List MessageReport) : Grid where
  heading := ["KEY", "TOKENS", "DIRECTIVES"]
  rows := reports.map MessageReport.cells

/-- The number of messages and of tokens in all of them. -/
def reportHeading (reports : List MessageReport) : String :=
  let tokens := reports.foldl (fun total report => total + report.template.tokenCount) 0
  s!"{programName} v{programVersion} | {reports.length} messages | {tokens} tokens"

/-- The lines of the reports for a reader. -/
def reportLines (colored : Bool) (reports : List MessageReport) : List String :=
  if reports.isEmpty then [reportHeading reports, "No messages in catalog."]
  else
    let warnings := reports.flatMap (MessageReport.warnings colored)
    reportHeading reports :: (reportGrid reports).lines ++
      if warnings.isEmpty then [paint colored .green "All messages compiled."] else warnings

end InteractiveMobs.CommandLine
