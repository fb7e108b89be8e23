/-!
# Coloring

Whether text is colored follows from a few settings that programs share, and from whether a
terminal is there to show it.
-/

namespace InteractiveMobs.CommandLine
set_option autoImplicit false

/-- The settings that decide about color, where they are given. -/
structure Coloring where
  /-- The setting that asks for no color. -/
  plain? : Option String := none
  /-- The setting that asks for color everywhere. -/
  force? : Option String := none
  /-- The setting that allows color on a terminal. -/
  allow? : Option String := none
  outputIsTerminal : Bool := false
  errorIsTerminal : Bool := false
deriving DecidableEq, Repr

namespace Coloring

/-- Whether a setting is given and not zero. -/
def isOn (setting : Option String) : Bool := setting.any (· ≠ "0")

/-- Whether color on a terminal is not ruled out. -/
def isAllowed (coloring : Coloring) : Bool := coloring.allow?.all (· ≠ "0")

/-- Whether what the program prints is colored. -/
def output (coloring : Coloring) : Bool :=
  if isOn coloring.force? then true
  else if coloring.plain?.isSome then false
  else coloring.isAllowed && coloring.outputIsTerminal

/-- Whether complaints about a command line are colored. -/
def complaints (coloring : Coloring) : Bool :=
  if coloring.plain?.any (· ≠ "") then false
  else if isOn coloring.force? then true
  else coloring.isAllowed && coloring.errorIsTerminal

/-- Whether log lines are colored. -/
def log (coloring : Coloring) : Bool := coloring.plain?.all (· = "")

end Coloring
end InteractiveMobs.CommandLine
