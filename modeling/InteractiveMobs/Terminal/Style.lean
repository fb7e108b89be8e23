/-!
# Styles

Text in color for a terminal that shows it.
-/

namespace InteractiveMobs.Terminal
set_option autoImplicit false

/-- A way to set text off. -/
inductive Style where
  | red
  | boldRed
  | green
  | yellow
  | boldYellow
  | blue
  | bold
  | dim
  | italic
deriving DecidableEq, Repr

/-- What turns a style on. -/
def Style.start : Style → String
  | red => "\x1b[31m"
  | boldRed => "\x1b[1m\x1b[31m"
  | green => "\x1b[32m"
  | yellow => "\x1b[33m"
  | boldYellow => "\x1b[1;33m"
  | blue => "\x1b[34m"
  | bold => "\x1b[1m"
  | dim => "\x1b[2m"
  | italic => "\x1b[3m"

/-- The text in a style, where styles are shown. -/
def paint (colored : Bool) (style : Style) (text : String) : String :=
  if colored then style.start ++ text ++ "\x1b[0m" else text

end InteractiveMobs.Terminal
