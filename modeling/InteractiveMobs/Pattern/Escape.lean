import InteractiveMobs.Pattern.Flags

/-!
# Escapes of a pattern

What a backslash and the characters behind it stand for: a character, a place in the text, or a
class of characters.
-/

namespace InteractiveMobs.Pattern
set_option autoImplicit false

/-- What an escape stands for. -/
inductive Escape where
  /-- A character, written as a byte or not. -/
  | char (c : Char) (asByte : Bool)
  /-- The start or the end of the text. -/
  | textEdge
  /-- The start or the end of a word, or a place that is neither. -/
  | wordEdge
  /-- The digits, the white space or the characters of words, or all others. -/
  | shorthand (negated : Bool)
deriving DecidableEq, Repr

namespace Escape

/-- The value of a digit in base sixteen. -/
def hexDigit? (c : Char) : Option Nat :=
  if '0' ≤ c && c ≤ '9' then some (c.toNat - '0'.toNat)
  else if 'a' ≤ c && c ≤ 'f' then some (c.toNat - 'a'.toNat + 10)
  else if 'A' ≤ c && c ≤ 'F' then some (c.toNat - 'A'.toNat + 10)
  else none

/-- A number of the given count of digits in base sixteen, and the text behind it. -/
def readHex? (flags : Flags) : Nat → Nat → List Char → Option (Nat × List Char)
  | 0, value, text => some (value, text)
  | count + 1, value, c :: rest =>
    (hexDigit? c).bind fun digit => readHex? flags count (16 * value + digit) (flags.skip rest)
  | _ + 1, _, [] => none

/-- A character by its number, and the text behind it. -/
def readCode? (flags : Flags) (digits : Nat) (asByte : Bool) (text : List Char) :
    Option (Escape × List Char) := do
  let (code, rest) ← readHex? flags digits 0 (flags.skip text)
  if code.isValidChar then some (char (.ofNat code) asByte, rest) else none

/-- Whether a backslash takes the meaning from a character: every sign of ASCII, but angles have
another meaning behind one. -/
def isSign (c : Char) : Bool := c.toNat < 0x80 && !c.isAlphanum && c ≠ '<' && c ≠ '>'

/-- The escape of the text behind a backslash, and what stands behind it. -/
def read? (flags : Flags) : List Char → Option (Escape × List Char)
  | [] => none
  | 'x' :: rest => readCode? flags 2 true rest
  | 'u' :: rest => readCode? flags 4 false rest
  | 'U' :: rest => readCode? flags 8 false rest
  | c :: rest =>
    match c with
    | 'd' | 's' | 'w' => some (shorthand false, rest)
    | 'D' | 'S' | 'W' => some (shorthand true, rest)
    | 'a' => some (char '\x07' false, rest)
    | 'f' => some (char '\x0c' false, rest)
    | 't' => some (char '\t' false, rest)
    | 'n' => some (char '\n' false, rest)
    | 'r' => some (char '\r' false, rest)
    | 'v' => some (char '\x0b' false, rest)
    | 'A' | 'z' => some (textEdge, rest)
    | 'b' | 'B' | '<' | '>' => some (wordEdge, rest)
    | _ => if isSign c then some (char c false, rest) else none

/-- Whether the escape can be used outside of brackets. Words and classes are known by bytes
alone, and no byte beyond ASCII is a character by itself. -/
def isUsable (flags : Flags) : Escape → Bool
  | char c asByte => flags.allowsChars && (flags.unicode || !asByte || c.toNat < 0x80)
  | textEdge => true
  | wordEdge => !flags.unicode
  | shorthand negated => !flags.unicode && !negated

end Escape
end InteractiveMobs.Pattern
