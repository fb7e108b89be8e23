/-!
# Characters of a YAML text

Which characters a document may hold, which of them end a line or separate words, and the
marks that end a document.
-/

namespace InteractiveMobs.Yaml
set_option autoImplicit false

/-- Whether the character ends a line, once carriage returns and the next-line character are
line feeds (`unifyBreaks`). -/
def isBreak (c : Char) : Bool := c = '\n' || c = '\u2028' || c = '\u2029'

/-- Whether the character ends a line of a text as it comes. -/
def isRawBreak (c : Char) : Bool := isBreak c || c = '\r' || c = '\u0085'

/-- A space or a tab. -/
def isBlank (c : Char) : Bool := c = ' ' || c = '\t'

/-- A blank or the end of a line. -/
def isSpacing (c : Char) : Bool := isBlank c || isBreak c

/-- Whether a word ends before these characters: at spacing, or at the end of the text. -/
def startsSpacing : List Char → Bool
  | [] => true
  | c :: _ => isSpacing c

/-- A letter or digit of ASCII, a hyphen, or an underscore. -/
def isWord (c : Char) : Bool := c.isAlphanum || c = '-' || c = '_'

/-- The mark that an encoding of Unicode may put before a text. -/
def byteOrderMark : Char := '\uFEFF'

/-- Whether a document may hold the character. -/
def isAllowed (c : Char) : Bool :=
  let n := c.toNat
  n = 0x09 || n = 0x0A || n = 0x0D || (0x20 ≤ n && n ≤ 0x7E) || n = 0x85 ||
    (0xA0 ≤ n && n ≤ 0xD7FF) || (0xE000 ≤ n && n ≤ 0xFFFD) || 0x10000 ≤ n

/-- Whether a written document shows the character as it is. -/
def isPrintable (c : Char) : Bool :=
  let n := c.toNat
  n = 0x0A || (0x20 ≤ n && n ≤ 0x7E) || (0xA0 ≤ n && n ≤ 0xD7FF) ||
    (0xE000 ≤ n && n ≤ 0xFFFD && c ≠ byteOrderMark) || 0x10000 ≤ n

/-- The characters with every line break a line feed, except for the separators of lines and
paragraphs, which stay what they are. -/
def unifyBreaks : List Char → List Char
  | [] => []
  | [c] => [if c = '\r' || c = '\u0085' then '\n' else c]
  | c :: next :: rest =>
    if c = '\r' && next = '\n' then '\n' :: unifyBreaks rest
    else (if c = '\r' || c = '\u0085' then '\n' else c) :: unifyBreaks (next :: rest)

/-- Whether the characters start with three of `c` that stand alone. -/
def startsMark (c : Char) : List Char → Bool
  | a :: b :: d :: rest => a = c && b = c && d = c && startsSpacing rest
  | _ => false

/-- Whether the characters, at the start of a line, begin or end a document. -/
def startsDocumentMark (text : List Char) : Bool := startsMark '-' text || startsMark '.' text

end InteractiveMobs.Yaml
