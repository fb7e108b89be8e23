import InteractiveMobs.Terminal.Style

/-!
# Usage errors

Why the words of a command line ask for nothing that can be done.
-/

namespace InteractiveMobs.CommandLine
set_option autoImplicit false
open Terminal

/-- What is wrong with a command line. -/
inductive UsageError where
  /-- There is no command. -/
  | noCommand
  | unknownCommand (word : String)
  | unknownArgument (word : String)
  /-- A flag was given a value. -/
  | needlessValue (value flag : String)
  | missingValue (option : String)
  | repeatedOption (option : String)
  | missingArguments (names : List String)
deriving DecidableEq, Repr

namespace UsageError

/-- A word at fault, set off. -/
def wrong (word : String) : String := paint true .yellow word

/-- A word of the program's own, set off. -/
def known (word : String) : String := paint true .bold word

/-- A missing argument, set off. -/
def missing (name : String) : String := paint true .green s!"<{name}>"

/-- What is wrong, with words set off. There is nothing to say if no command was given. -/
def fault : UsageError → Option String
  | noCommand => none
  | unknownCommand word => some s!"unrecognized subcommand '{wrong word}'"
  | unknownArgument word => some s!"unexpected argument '{wrong word}' found"
  | needlessValue value flag =>
    some s!"unexpected value '{wrong value}' for '{known flag}' found; no more were expected"
  | missingValue option =>
    some s!"a value is required for '{wrong option}' but none was supplied"
  | repeatedOption option => some s!"the argument '{wrong option}' cannot be used multiple times"
  | missingArguments names => some <| "the following required arguments were not provided:" ++
      String.join (names.map fun name => "\n  " ++ missing name)

/-- The report of an error in color, before the hint where to find help. -/
def message (error : UsageError) : Option String :=
  error.fault.map fun fault => paint true .boldRed "error:" ++ " " ++ fault

end UsageError
end InteractiveMobs.CommandLine
