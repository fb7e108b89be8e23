import InteractiveMobs.Formatting.Code

/-!
# The formatting in effect

Reading template text from left to right, a color code replaces the color and ends the
formats, a format code is added once, and a reset ends both. `State.restorePrefix` writes the
codes that bring a state back after a reset.
-/

namespace InteractiveMobs.Formatting
set_option autoImplicit false

/-- The color and the formats in effect, each as its code was written. -/
structure State where
  color : Option String := none
  formats : List String := []
deriving DecidableEq, Repr, Inhabited

/-- Whether two codes differ at most in the case of ASCII letters. -/
def sameCode (a b : String) : Bool :=
  a.toList.map Char.toLower == b.toList.map Char.toLower

namespace State

/-- The state after one more code of the given class. -/
def apply (state : State) (code : String) : CodeClass → State
  | .color => { color := some code, formats := [] }
  | .format =>
    if state.formats.any (sameCode · code) then state
    else { state with formats := state.formats ++ [code] }
  | .reset => {}

/-- The state after every code among the characters. A marker without a tracked code behind it
is passed over alone, so in `&&c` the second one counts. -/
def scanChars (state : State) : List Char → State
  | [] => state
  | [_] => state
  | c :: code :: rest =>
    if c = marker then
      match CodeClass.of? code with
      | some kind => (state.apply (String.ofList [marker, code]) kind).scanChars rest
      | none => state.scanChars (code :: rest)
    else state.scanChars (code :: rest)

/-- The state after every code in the text. -/
def scan (state : State) (text : String) : State := state.scanChars text.toList

/-- The codes that re-create the state after a reset: the color, then the formats. -/
def restorePrefix (state : State) : String :=
  state.color.getD "" ++ String.join state.formats

end State
end InteractiveMobs.Formatting
