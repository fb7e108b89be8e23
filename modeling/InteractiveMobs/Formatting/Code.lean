/-!
# Formatting codes

A formatting code is a marker followed by one code character: `0`-`9` and `a`-`f` choose a
color, `k`-`o` add a format, `r` resets both; case does not matter. Template text marks codes
with `&`, the display with the section sign. `translate` turns the first kind into the second,
`untranslate` shows the second as the first, and `strip` drops what the display would hide.
-/

namespace InteractiveMobs.Formatting
set_option autoImplicit false

/-- The marker in front of a code in template text. -/
def marker : Char := '&'

/-- The marker in front of a code on display: the section sign. -/
def displayMarker : Char := '\u00A7'

/-- The code that clears every color and format after it. -/
def resetCode : String := "&r"

/-- What a code does to the text after it. -/
inductive CodeClass where
  | color
  | format
  | reset
deriving DecidableEq, Repr

/-- The class of a code character, if it is the character of a tracked code. -/
def CodeClass.of? (code : Char) : Option CodeClass :=
  let code := code.toLower
  if ('0' ≤ code ∧ code ≤ '9') ∨ ('a' ≤ code ∧ code ≤ 'f') then some .color
  else if 'k' ≤ code ∧ code ≤ 'o' then some .format
  else if code = 'r' then some .reset
  else none

/-- Whether the display knows the code: the tracked ones, and `x`, which introduces a hex
color there and is not tracked here. -/
def isTranslatable (code : Char) : Bool :=
  (CodeClass.of? code).isSome || code.toLower == 'x'

/-- Characters with every pair of `mark` and a translatable code made a display code in lower
case. The pairs are taken from the left; a marker without a code stays as it is. -/
def translateChars (mark : Char) : List Char → List Char
  | [] => []
  | [c] => [c]
  | c :: code :: rest =>
    if c = mark ∧ isTranslatable code then
      displayMarker :: code.toLower :: translateChars mark rest
    else
      c :: translateChars mark (code :: rest)

/-- Characters without the display markers and the one character behind each. -/
def stripChars : List Char → List Char
  | [] => []
  | [c] => if c = displayMarker then [] else [c]
  | c :: code :: rest =>
    if c = displayMarker then stripChars rest else c :: stripChars (code :: rest)

/-- Text with every code marked by `mark` made a display code. -/
def translateWith (mark : Char) (text : String) : String :=
  String.ofList (translateChars mark text.toList)

/-- Template text as the display wants it. -/
def translate (text : String) : String := translateWith marker text

/-- Display text with its codes marked as in template text. -/
def untranslate (text : String) : String :=
  String.ofList (text.toList.map fun c => if c = displayMarker then marker else c)

/-- Display text without its codes. -/
def strip (text : String) : String := String.ofList (stripChars text.toList)

/-- Whether text is formatting codes and nothing else, so that none of it is visible. -/
def isCodeOnly (text : String) : Bool := (strip (translate text)).isEmpty

end InteractiveMobs.Formatting
