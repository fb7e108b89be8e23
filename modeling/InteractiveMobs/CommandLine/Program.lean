import InteractiveMobs.Catalog.MessageSet
import InteractiveMobs.CommandLine.Check
import InteractiveMobs.CommandLine.Command
import InteractiveMobs.CommandLine.Help
import InteractiveMobs.CommandLine.LogLine
import InteractiveMobs.Storage.CatalogFile
import InteractiveMobs.Terminal.ControlSequence

/-!
# The program

What a command line does, as a script that says what the program prints and how it ends.
-/

namespace InteractiveMobs.CommandLine
set_option autoImplicit false
open Terminal

/-- What the program knows about where it runs. -/
structure Environment where
  home : Option Path
  colored : Bool := false
  /-- The time at which the program was started. -/
  time : String

/-- Why a command failed: what it was about to do, and what lies behind it, the nearest cause
first. -/
structure CommandError where
  context : String
  causes : List String
deriving DecidableEq, Repr

/-- How a command line ends. -/
inductive Ending where
  | completed
  | failed (error : CommandError)
  | misused (error : UsageError)
deriving DecidableEq, Repr

/-- What the program prints, and how it ends. -/
structure Outcome where
  output : String := ""
  ending : Ending := .completed
deriving DecidableEq, Repr

namespace CommandError

/-- A cause in the report. All its lines are indented, behind its number if there are several. -/
def causeText (number : Option Nat) (cause : String) : String :=
  let (first, margin) := match number with
    | some n => ("    " ++ toString n ++ ": ", "       ")
    | none => ("    ", "    ")
  first ++ ("\n" ++ margin).intercalate (cause.splitOn "\n")

/-- The report of an error. -/
def report (error : CommandError) : String :=
  let causes := match error.causes with
    | [] => []
    | [cause] => [causeText none cause]
    | causes => causes.mapIdx fun i cause => causeText (some i) cause
  "Error: " ++ error.context ++ "\n" ++
    if causes.isEmpty then "" else "\nCaused by:\n" ++ String.join (causes.map (· ++ "\n"))

/-- A message that could not be rendered. -/
def ofMessage (context : String) (error : MessageError) : CommandError where
  context := context
  causes := [error.message]

/-- A catalog that could not be loaded or saved. -/
def ofCatalog (context : String) (error : CatalogError) : CommandError where
  context := context
  causes := error.message :: error.detail?.toList

end CommandError

namespace Ending

/-- The exit code. -/
def code : Ending → UInt32
  | completed => 0
  | failed _ => 1
  | misused _ => 2

/-- What is said about the ending. What is said about misuse has control sequences only if it
is colored; those among the words at fault go together with the colors. -/
def complaint (colored : Bool) : Ending → String
  | completed => ""
  | failed error => error.report
  | misused error =>
    match error.message with
    | some message =>
      let text := message ++ "\n\nFor more information, try '--help'.\n"
      if colored then text else withoutControls text
    | none => programHelp

end Ending

/-- The steps of a command, which may fail. -/
abbrev Steps (α : Type) := ExceptT CommandError Script α

namespace Steps

/-- A task on the catalog; `context` says what it is for. -/
def task {α : Type} (context : String) (task : Task α) : Steps α :=
  ExceptT.mk do return (← task.run).mapError (.ofCatalog context)

/-- Tells the log of events. -/
def tell (events : List Log.Event) : Steps Unit :=
  ExceptT.mk (events.foldr Script.log (.done (.ok ())))

/-- A rendered message; `context` says what it is for. -/
def rendered (context : String) (result : Except MessageError String) : Steps String :=
  ExceptT.mk (.done (result.mapError (.ofMessage context)))

/-- Whether something is at a path. -/
def isPresent (path : Path) : Steps Bool :=
  ExceptT.mk (.isPresent path fun found => .done (.ok found))

/-- The home directory; `context` says what it is for. -/
def home (environment : Environment) (context : String) : Steps Path :=
  match environment.home with
  | some home => return home
  | none => throw (.ofCatalog context .homeNotFound)

end Steps

/-- The catalog at a path, or the user's own, or else the default one. -/
def loadCatalog (environment : Environment) : Option Path → Steps Config
  | some path => Steps.task s!"failed to load catalog '{path}'" (CatalogFile.load path)
  | none => do
    let context := "failed to load message catalog"
    let home ← Steps.home environment context
    Steps.task context (CatalogFile.loadOrDefault home)

/-- A message as printed. -/
def printed (showCodes : Bool) (text : String) : String :=
  (if showCodes then Formatting.untranslate text else text) ++ "\n"

/-- What a command prints. -/
def Command.output (environment : Environment) : Command → Steps String
  | render template args showCodes => do
    let compiled := Template.compile template
    Steps.tell [{
      area := .templates
      level := .debug
      message := "compiled template"
      fields := [("tokens", .count compiled.tokenCount)] }]
    return printed showCodes
      (← Steps.rendered s!"failed to render '{template}'" (compiled.render args))
  | check catalog asJson => do
    let reports := reports (.ofConfig (← loadCatalog environment catalog))
    return if asJson then reportJson environment.time reports ++ "\n"
      else String.join ((reportLines environment.colored reports).map (· ++ "\n"))
  | message key args catalog showCodes => do
    let messages := MessageSet.ofConfig (← loadCatalog environment catalog)
    Steps.tell (messages.renderEvents key)
    return printed showCodes
      (← Steps.rendered s!"failed to render message '{key}'" (messages.render key args))
  | init => do
    let home ← Steps.home environment "cannot locate message catalog"
    let existed ← Steps.isPresent home.catalogFile
    let config ← Steps.task "failed to write default message catalog" (CatalogFile.init home)
    let done := if existed then "Catalog already present; left unchanged."
      else s!"✓ Wrote {config.messages.size} default messages"
    return s!"{done}\n  Catalog: {home.catalogFile}\n"

/-- What a command line does. -/
def program (environment : Environment) (words : List String) : Script Outcome := do
  match Invocation.read words with
  | .error error => return { ending := .misused error }
  | .ok .version => return { output := s!"{programName} {programVersion}\n" }
  | .ok (.help topic) => return { output := helpText topic }
  | .ok (.run command) =>
    match ← (command.output environment).run with
    | .ok output => return { output }
    | .error error => return { ending := .failed error }

end InteractiveMobs.CommandLine
