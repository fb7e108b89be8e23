/-!
# Words of a command line

A word that starts with a hyphen is an option, except the hyphen alone; two hyphens alone end the
options.
-/

namespace InteractiveMobs.CommandLine
set_option autoImplicit false

/-- What a word is by its form. -/
inductive Word where
  /-- Two hyphens: only plain words follow. -/
  | separator
  /-- An option by name, perhaps with a value behind an equals sign. -/
  | long (name : String) (value : Option String)
  /-- An option by letter, of which only the first letter counts. -/
  | short (letter : Char)
  | plain (text : String)
deriving DecidableEq, Repr

/-- A long option without its hyphens, divided at the first equals sign. -/
def Word.ofLong (text : List Char) : Word :=
  match text.dropWhile (· ≠ '=') with
  | [] => .long (String.ofList text) none
  | _ :: value => .long (String.ofList (text.takeWhile (· ≠ '='))) (some (String.ofList value))

/-- The form of a word. -/
def Word.of (text : String) : Word :=
  match text.toList with
  | ['-', '-'] => .separator
  | '-' :: '-' :: rest => .ofLong rest
  | '-' :: letter :: _ => .short letter
  | _ => .plain text

end InteractiveMobs.CommandLine
