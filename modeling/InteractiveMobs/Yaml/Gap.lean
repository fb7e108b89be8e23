import InteractiveMobs.Yaml.Chars

/-!
# Gaps between words

In a flow scalar the white space between two words counts as it is while it stays on a line.
Across lines, blanks are dropped, a single line feed becomes a space, and of several line
breaks the first is dropped if it is a line feed.
-/

namespace InteractiveMobs.Yaml
set_option autoImplicit false

/-- White space read since the last word. -/
inductive Gap where
  | none
  /-- Blanks on one line, newest first. -/
  | blanks (newest : List Char)
  /-- At least one line break: the first, unless it was escaped, the later ones, newest first,
  and the number of blanks after the last. -/
  | lines (first : Option Char) (more : List Char) (column : Nat)
deriving DecidableEq, Repr

namespace Gap

/-- The gap with one more blank. -/
def blank (gap : Gap) (c : Char) : Gap :=
  match gap with
  | none => blanks [c]
  | blanks newest => blanks (c :: newest)
  | lines first more column => lines first more (column + 1)

/-- The gap with one more line break. -/
def lineBreak (gap : Gap) (c : Char) : Gap :=
  match gap with
  | lines first more _ => lines first (c :: more) 0
  | _ => lines (some c) [] 0

/-- What the gap stands for in the text, newest first. -/
def folded : Gap → List Char
  | none => []
  | blanks newest => newest
  | lines (some '\n') [] _ => [' ']
  | lines (some '\n') more _ => more
  | lines (some c) more _ => more ++ [c]
  | lines Option.none more _ => more

/-- Whether the gap ends at the start of a line. -/
def atLineStart : Gap → Bool
  | lines _ _ 0 => true
  | _ => false

/-- Whether the gap goes over a line break. -/
def hasBreak : Gap → Bool
  | lines _ _ _ => true
  | _ => false

end Gap
end InteractiveMobs.Yaml
