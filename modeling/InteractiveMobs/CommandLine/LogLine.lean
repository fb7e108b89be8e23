import InteractiveMobs.Log
import InteractiveMobs.Terminal.Style

/-!
# Log lines

The line that a log event makes.
-/

namespace InteractiveMobs.CommandLine
set_option autoImplicit false
open Terminal

/-- The name of a level, all of one width. -/
def levelText (colored : Bool) : Log.Level → String
  | .debug => paint colored .blue "DEBUG"
  | .info => paint colored .green " INFO"
  | .warn => paint colored .yellow " WARN"

/-- The value of a field as shown. -/
def valueText : Log.Value → String
  | .text text => text
  | .count n => toString n

/-- The line of an event that happened at the given time. -/
def logLine (colored : Bool) (time : String) (event : Log.Event) : String :=
  paint colored .dim time ++ " " ++ levelText colored event.level ++ " " ++ event.message ++
    String.join (event.fields.map fun f =>
      " " ++ paint colored .italic f.1 ++ paint colored .dim "=" ++ valueText f.2) ++ "\n"

end InteractiveMobs.CommandLine
