import InteractiveMobs.Yaml.Error
import InteractiveMobs.Yaml.Gap

/-!
# Single-quoted scalars

Between single quotes every character stands for itself; a single quote is written twice.
-/

namespace InteractiveMobs.Yaml.SingleQuoted
set_option autoImplicit false

/-- Reads the rest of a scalar after its opening quote, given the text read so far, newest
first, and the gap since: the text, and what comes after the closing quote. -/
def read (gap : Gap) (newest : List Char) : List Char → Except Error (List Char × List Char)
  | [] => .error .unclosedQuote
  | [c] =>
    if c = '\'' then .ok ((gap.folded ++ newest).reverse, []) else .error .unclosedQuote
  | c :: next :: rest =>
    if isBlank c then read (gap.blank c) newest (next :: rest)
    else if isBreak c then read (gap.lineBreak c) newest (next :: rest)
    else if gap.atLineStart && startsDocumentMark (c :: next :: rest) then
      .error .documentMarkInQuote
    else if c = '\'' then
      if next = '\'' then read .none ('\'' :: (gap.folded ++ newest)) rest
      else .ok ((gap.folded ++ newest).reverse, next :: rest)
    else read .none (c :: (gap.folded ++ newest)) (next :: rest)

end InteractiveMobs.Yaml.SingleQuoted
