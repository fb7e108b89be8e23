import InteractiveMobs.Yaml.Error
import InteractiveMobs.Yaml.Gap

/-!
# Double-quoted scalars

Between double quotes a backslash starts an escape: a letter for a control character, or a code
point in base sixteen. A backslash at the end of a line joins it with the next.
-/

namespace InteractiveMobs.Yaml.DoubleQuoted
set_option autoImplicit false

/-- An escape being read. -/
inductive Escape where
  | none
  /-- The backslash was read. -/
  | opened
  /-- A code point with so many digits to come. -/
  | digits (count : Nat) (value : Nat)
deriving DecidableEq, Repr

/-- The character that a one-letter escape stands for. -/
def escaped? (c : Char) : Option Char :=
  match c with
  | '0' => some '\x00'
  | 'a' => some '\x07'
  | 'b' => some '\x08'
  | 't' | '\t' => some '\t'
  | 'n' => some '\n'
  | 'v' => some '\x0b'
  | 'f' => some '\x0c'
  | 'r' => some '\r'
  | 'e' => some '\x1b'
  | ' ' => some ' '
  | '"' => some '"'
  | '/' => some '/'
  | '\\' => some '\\'
  | 'N' => some '\u0085'
  | '_' => some '\u00a0'
  | 'L' => some '\u2028'
  | 'P' => some '\u2029'
  | _ => Option.none

/-- The number of digits behind the letter of a code point. -/
def digitCount? (c : Char) : Option Nat :=
  match c with
  | 'x' => some 2
  | 'u' => some 4
  | 'U' => some 8
  | _ => Option.none

/-- The value of a digit in base sixteen, of either case. -/
def hexValue? (c : Char) : Option Nat :=
  if '0' ≤ c ∧ c ≤ '9' then some (c.toNat - 48)
  else if 'a' ≤ c ∧ c ≤ 'f' then some (c.toNat - 87)
  else if 'A' ≤ c ∧ c ≤ 'F' then some (c.toNat - 55)
  else Option.none

/-- The character of a code point; surrogates have none. -/
def charOf? (value : Nat) : Option Char :=
  if h : value.isValidChar then some (Char.ofNatAux value h) else Option.none

/-- Reads the rest of a scalar after its opening quote, given the escape it is in, the text read
so far, newest first, and the gap since: the text, and what comes after the closing quote. -/
def read (escape : Escape) (gap : Gap) (newest : List Char) :
    List Char → Except Error (List Char × List Char)
  | [] => .error .unclosedQuote
  | c :: rest =>
    match escape with
    | .opened =>
      if isBreak c then read .none (.lines Option.none [] 0) newest rest
      else match escaped? c with
        | some meant => read .none .none (meant :: newest) rest
        | Option.none => match digitCount? c with
          | some count => read (.digits count 0) .none newest rest
          | Option.none => .error .badEscape
    | .digits count value =>
      match hexValue? c with
      | Option.none => .error .badEscape
      | some digit =>
        let value := value * 16 + digit
        if count ≤ 1 then
          match charOf? value with
          | some meant => read .none .none (meant :: newest) rest
          | Option.none => .error .badEscape
        else read (.digits (count - 1) value) .none newest rest
    | .none =>
      if isBlank c then read .none (gap.blank c) newest rest
      else if isBreak c then read .none (gap.lineBreak c) newest rest
      else if gap.atLineStart && startsDocumentMark (c :: rest) then .error .documentMarkInQuote
      else if c = '"' then .ok ((gap.folded ++ newest).reverse, rest)
      else if c = '\\' then read .opened .none (gap.folded ++ newest) rest
      else read .none .none (c :: (gap.folded ++ newest)) rest

end InteractiveMobs.Yaml.DoubleQuoted
