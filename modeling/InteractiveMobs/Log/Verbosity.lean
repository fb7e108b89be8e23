import InteractiveMobs.Log

/-!
# Verbosity

How much of a log is shown, from nothing to everything, by the levels of its events.
-/

namespace InteractiveMobs.Log
set_option autoImplicit false

/-- How much of the log is shown: the events of a level and of those above it. -/
inductive Verbosity where
  | off
  | error
  | warn
  | info
  | debug
  | trace
deriving DecidableEq, Repr

namespace Verbosity

/-- The verbosity of a number. -/
def ofNumber? : Nat → Option Verbosity
  | 0 => some off
  | 1 => some error
  | 2 => some warn
  | 3 => some info
  | 4 => some debug
  | 5 => some trace
  | _ => none

/-- A number without a sign or with a plus. -/
def readNumber? (text : List Char) : Option Nat :=
  let digits := if text.head? = some '+' then text.drop 1 else text
  if !digits.isEmpty && digits.all Char.isDigit then
    some (digits.foldl (fun n c => 10 * n + (c.toNat - '0'.toNat)) 0)
  else none

/-- The verbosity of a name or number; case does not matter. -/
def of? (text : List Char) : Option Verbosity :=
  match String.ofList (text.map Char.toLower) with
  | "off" => some off
  | "error" => some error
  | "warn" => some warn
  | "info" => some info
  | "debug" => some debug
  | "trace" => some trace
  | _ => (readNumber? text).bind ofNumber?

/-- Whether events of a level are shown. -/
def shows (verbosity : Verbosity) (level : Level) : Bool :=
  match level with
  | .debug => verbosity = debug || verbosity = trace
  | .info => verbosity = info || verbosity = debug || verbosity = trace
  | .warn => verbosity = warn || verbosity = info || verbosity = debug || verbosity = trace

end Verbosity

end InteractiveMobs.Log
