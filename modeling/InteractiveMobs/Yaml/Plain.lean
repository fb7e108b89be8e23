import InteractiveMobs.Yaml.Error
import InteractiveMobs.Yaml.Gap

/-!
# Plain scalars

A plain scalar has no quotes. It ends before a colon or a comment that stands apart, at the
brackets and commas of a flow collection, and in a block before a line that is not indented
enough or starts or ends a document.
-/

namespace InteractiveMobs.Yaml.Plain
set_option autoImplicit false

/-- The text of a plain scalar, what comes after it, and whether a line break lies between. -/
structure Lexeme where
  text : List Char
  rest : List Char
  crossedBreak : Bool
deriving DecidableEq, Repr

/-- The indicators of flow collections. -/
def isFlowIndicator (c : Char) : Bool := c = ',' || c = '[' || c = ']' || c = '{' || c = '}'

/-- Whether the scalar ends within a gap, before the word that starts here. -/
def endsInGap (flow : Bool) (indent : Nat) (gap : Gap) (word : List Char) : Bool :=
  match gap with
  | .none => false
  | .blanks _ => word.head? = some '#'
  | .lines _ _ column =>
    (!flow && column < indent) || (column = 0 && startsDocumentMark word) || word.head? = some '#'

/-- Whether the scalar ends before this character of a word. -/
def endsBefore (flow : Bool) (c : Char) (rest : List Char) : Bool :=
  (c = ':' && startsSpacing rest) || (flow && isFlowIndicator c)

/-- Whether a colon in a flow collection is neither text nor the end of it. -/
def isStrayColon (flow : Bool) (c : Char) (rest : List Char) : Bool :=
  flow && c = ':' && (rest.head?.any fun next => next = '?' || isFlowIndicator next)

/-- Reads the rest of a plain scalar after the text read so far, newest first, and the gap since.
Its continuation lines have at least `indent` blanks unless it is in a flow collection. -/
def read (flow : Bool) (indent : Nat) (gap : Gap) (newest : List Char) :
    List Char → Except Error Lexeme
  | [] => .ok ⟨newest.reverse, [], gap.hasBreak⟩
  | c :: rest =>
    if isBlank c then
      match gap with
      | .lines _ _ column =>
        if c = '\t' && column < indent then .error .tabInIndentation
        else read flow indent (gap.blank c) newest rest
      | _ => read flow indent (gap.blank c) newest rest
    else if isBreak c then read flow indent (gap.lineBreak c) newest rest
    else if endsInGap flow indent gap (c :: rest) then
      .ok ⟨newest.reverse, c :: rest, gap.hasBreak⟩
    else if isStrayColon flow c rest then .error .unexpectedColon
    else if endsBefore flow c rest then .ok ⟨newest.reverse, c :: rest, gap.hasBreak⟩
    else read flow indent .none (c :: (gap.folded ++ newest)) rest

/-- Whether a plain scalar may start with these characters. -/
def starts (flow : Bool) : List Char → Bool
  | [] => false
  | c :: rest =>
    let next := rest.head?
    if isSpacing c then false
    else if c = '-' then !(next.any isBlank)
    else if c = '?' || c = ':' then !flow && !startsSpacing rest
    else !(isFlowIndicator c || c = '#' || c = '&' || c = '*' || c = '!' || c = '|' || c = '>' ||
      c = '\'' || c = '"' || c = '%' || c = '@' || c = '\x60')

end InteractiveMobs.Yaml.Plain
