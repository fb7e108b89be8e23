import InteractiveMobs.Yaml.Chars
import InteractiveMobs.Yaml.Meaning

/-!
# Writing scalars

A scalar is written plain where that reads back as the same text, else between single quotes,
and between double quotes where some of it has to be escaped. A text with line feeds becomes a
literal block. Nothing is folded.
-/

namespace InteractiveMobs.Yaml.Writing
set_option autoImplicit false

/-- The columns that the text of a scalar in a mapping below the root is indented by. -/
def textIndent : Nat := 4

/-- Whether some two neighbours stand in a relation. -/
def hasNeighbours (related : Char → Char → Bool) : List Char → Bool
  | a :: b :: rest => related a b || hasNeighbours related (b :: rest)
  | _ => false

/-- Whether a line starts with a space. -/
def hasBreakSpace : List Char → Bool := hasNeighbours fun a b => isBreak a && b = ' '

/-- Whether a line ends with a space. -/
def hasSpaceBreak : List Char → Bool := hasNeighbours fun a b => a = ' ' && isBreak b

/-- Whether some character has to be escaped. -/
def hasUnprintable (text : List Char) : Bool := text.any (!isPrintable ·)

/-- Whether a colon or a number sign stands where it would end a plain scalar. -/
def hasSeparator (afterSpacing : Bool) : List Char → Bool
  | [] => false
  | c :: rest =>
    (c = ':' && startsSpacing rest) || (c = '#' && afterSpacing) ||
      hasSeparator (isSpacing c) rest

/-- Whether the text starts like another token than a plain scalar. -/
def startsIndicator : List Char → Bool
  | [] => false
  | c :: rest =>
    c = '#' || c = ',' || c = '[' || c = ']' || c = '{' || c = '}' || c = '&' || c = '*' ||
      c = '!' || c = '|' || c = '>' || c = '\'' || c = '"' || c = '%' || c = '@' || c = '\x60' ||
      ((c = '?' || c = ':' || c = '-') && startsSpacing rest)

/-- Whether the text starts with three hyphens or dots. -/
def startsTriple (text : List Char) : Bool :=
  text.take 3 = ['-', '-', '-'] || text.take 3 = ['.', '.', '.']

/-- Whether the text may stand without quotes. -/
def plainAllowed (text : List Char) : Bool :=
  !(isAmbiguous text || text.head? = some ' ' || text.getLast? = some ' ' || text.any isBreak ||
    hasUnprintable text || startsTriple text || startsIndicator text || hasSeparator false text)

/-- Whether the text may stand between single quotes. -/
def singleAllowed (text : List Char) : Bool :=
  !(hasBreakSpace text || hasSpaceBreak text || hasUnprintable text)

/-- Whether the text may stand as a literal block. -/
def literalAllowed (text : List Char) : Bool :=
  !(text.getLast? = some ' ' || hasSpaceBreak text || hasUnprintable text)

/-- Spaces. -/
def margin (n : Nat) : List Char := List.replicate n ' '

/-- The text between single quotes, given whether a break came last: quotes are written twice,
and the margin stands behind breaks. -/
def singleBody (afterBreak : Bool) : List Char → List Char
  | [] => if afterBreak then margin textIndent ++ ['\''] else ['\'']
  | c :: rest =>
    if isBreak c then c :: singleBody true rest
    else if c = ' ' then ' ' :: singleBody afterBreak rest
    else
      (if afterBreak then margin textIndent else []) ++
        (if c = '\'' then ['\'', '\''] else [c]) ++ singleBody false rest

/-- A digit in base sixteen, upper case. -/
def hexDigit (n : Nat) : Char := if n < 10 then .ofNat (48 + n) else .ofNat (55 + n)

/-- The last `width` digits of a number in base sixteen. -/
def hexDigits : Nat → Nat → List Char
  | 0, _ => []
  | width + 1, n => hexDigits width (n / 16) ++ [hexDigit (n % 16)]

/-- The escape of a character by its code point. -/
def codePoint (c : Char) : List Char :=
  let n := c.toNat
  if n ≤ 0xFF then '\\' :: 'x' :: hexDigits 2 n
  else if n ≤ 0xFFFF then '\\' :: 'u' :: hexDigits 4 n
  else '\\' :: 'U' :: hexDigits 8 n

/-- The letter of an escape, where the character has one. -/
def letter? (c : Char) : Option Char :=
  match c with
  | '\x00' => some '0'
  | '\x07' => some 'a'
  | '\x08' => some 'b'
  | '\t' => some 't'
  | '\n' => some 'n'
  | '\x0b' => some 'v'
  | '\x0c' => some 'f'
  | '\r' => some 'r'
  | '\x1b' => some 'e'
  | '"' => some '"'
  | '\\' => some '\\'
  | '\u0085' => some 'N'
  | '\u2028' => some 'L'
  | '\u2029' => some 'P'
  | _ => none

/-- A character between double quotes. -/
def doubleChar (c : Char) : List Char :=
  match letter? c with
  | some letter => ['\\', letter]
  | none => if isPrintable c then [c] else codePoint c

/-- The indentation indicator of a literal block, needed where its first line starts with a
space or is empty. -/
def literalIndent (text : List Char) : List Char :=
  if text.head?.any fun c => c = ' ' || isBreak c then ['2'] else []

/-- The chomping indicator of a literal block, from the breaks at its end. -/
def literalChomping (text : List Char) : List Char :=
  match text.reverse with
  | last :: rest =>
    if !isBreak last then ['-']
    else match rest with
      | [] => ['+']
      | before :: _ => if isBreak before then ['+'] else []
  | [] => ['-']

/-- The lines of a literal block, given whether a break came last. -/
def literalBody (afterBreak : Bool) : List Char → List Char
  | [] => []
  | c :: rest =>
    if isBreak c then c :: literalBody true rest
    else (if afterBreak then margin textIndent else []) ++ c :: literalBody false rest

/-- The text without quotes. -/
def plain (text : List Char) : List Char := text

/-- The text between single quotes. -/
def single (text : List Char) : List Char := '\'' :: singleBody false text

/-- The text between double quotes. -/
def double (text : List Char) : List Char := '"' :: text.flatMap doubleChar ++ ['"']

/-- The text as a literal block. -/
def literal (text : List Char) : List Char :=
  '|' :: literalIndent text ++ literalChomping text ++ '\n' :: literalBody true text

/-- The text as it is written in a mapping below the root. -/
def scalar (text : List Char) : List Char :=
  if text.contains '\n' then
    if literalAllowed text then literal text else double text
  else if plainAllowed text then plain text
  else if singleAllowed text then single text
  else double text

/-- The greatest length in octets of a key that stands before its colon without a mark. -/
def simpleKeyLength : Nat := 128

/-- Whether a key can stand before its colon without a mark. -/
def isSimpleKey (key : String) : Bool :=
  !key.toList.any isRawBreak && key.utf8ByteSize ≤ simpleKeyLength

/-- The text with a line feed at its end, unless a line ends there already. -/
def endLine (text : List Char) : List Char :=
  if text.getLast?.any isBreak then text else text ++ ['\n']

/-- One entry of a mapping below the root. -/
def entry (key value : String) : List Char :=
  let key' := scalar key.toList
  let value' := scalar value.toList
  if isSimpleKey key then endLine (margin 2 ++ key' ++ ':' :: ' ' :: value')
  else
    endLine (margin 2 ++ '?' :: ' ' :: key') ++ endLine (margin 2 ++ ':' :: ' ' :: value')

end InteractiveMobs.Yaml.Writing
