/-!
# What plain scalars mean

A scalar without quotes may mean something else than its text: nothing, a truth value, a whole
number in one of four bases, or a number with a fraction. Texts for which that is so are to be
quoted when they are written.
-/

namespace InteractiveMobs.Yaml
set_option autoImplicit false

/-- The value of a digit in a base up to sixteen. -/
def digit? (base : Nat) (c : Char) : Option Nat :=
  let value :=
    if '0' ≤ c ∧ c ≤ '9' then c.toNat - 48
    else if 'a' ≤ c ∧ c ≤ 'f' then c.toNat - 87
    else if 'A' ≤ c ∧ c ≤ 'F' then c.toNat - 55
    else base
  if value < base then some value else none

/-- The number that digits after `value` write. -/
def digitsFrom? (base value : Nat) : List Char → Option Nat
  | [] => some value
  | c :: rest =>
    match digit? base c with
    | some d => digitsFrom? base (value * base + d) rest
    | none => none

/-- The number that digits write, of which there has to be one. -/
def digits? (base : Nat) (text : List Char) : Option Nat :=
  if text.isEmpty then none else digitsFrom? base 0 text

/-- Whether a decimal number has a zero too many in front, which makes it a text. -/
def isZeroPadded (digits : List Char) : Bool :=
  match digits with
  | '0' :: rest => !rest.isEmpty && rest.all Char.isDigit
  | _ => false

/-- The text without one sign in front. -/
def dropSign (sign : Char) (text : List Char) : List Char :=
  if text.head? = some sign then text.drop 1 else text

/-- The whole number that digits write: decimal, or in the base of a mark in front. -/
def magnitude? (text : List Char) : Option Nat :=
  match text with
  | '0' :: 'x' :: rest => digits? 16 rest
  | '0' :: 'o' :: rest => digits? 8 rest
  | '0' :: 'b' :: rest => digits? 2 rest
  | _ => if isZeroPadded text then none else digits? 10 text

/-- The whole number that is not negative which a plain scalar means; it may have a plus sign. -/
def natural? (text : List Char) : Option Nat := magnitude? (dropSign '+' text)

/-- Whether a plain scalar means a whole number in the range of 128-bit words, signed if it is
negative. -/
def isInteger (text : List Char) : Bool :=
  (natural? text).any (· < Nat.pow 2 128) ||
    match text with
    | '-' :: rest => (magnitude? rest).any (· ≤ Nat.pow 2 127)
    | _ => false

/-- Whether `digits · 10 ^ exponent` is nearer to a double than to infinity. -/
def isFinite (digits : List Char) (exponent : Int) : Bool :=
  let significant := digits.dropWhile (· = '0')
  let value := (digits? 10 significant).getD 0
  if significant.isEmpty then true
  else if 309 < significant.length + exponent then false
  else if exponent < 0 then
    decide (value < limit * Nat.pow 10 (min exponent.natAbs significant.length))
  else decide (value * Nat.pow 10 exponent.toNat < limit)
where
  /-- The least number that is nearer to infinity. -/
  limit : Nat := Nat.pow 2 1024 - Nat.pow 2 970

/-- The exponent of a decimal number: nothing, or a mark and a whole number with any sign. -/
def exponent? (text : List Char) : Option Int :=
  match text with
  | [] => some 0
  | mark :: rest =>
    if mark = 'e' || mark = 'E' then
      match rest with
      | '-' :: digits => (digits? 10 digits).map fun n => -(n : Int)
      | _ => (digits? 10 (dropSign '+' rest)).map fun n => (n : Int)
    else none

/-- Whether the text, its sign apart, is a decimal number that a double can hold. -/
def isDecimal (text : List Char) : Bool :=
  let whole := text.takeWhile Char.isDigit
  let rest := text.dropWhile Char.isDigit
  let (fraction, rest) :=
    if rest.head? = some '.' then
      ((rest.drop 1).takeWhile Char.isDigit, (rest.drop 1).dropWhile Char.isDigit)
    else ([], rest)
  match exponent? rest with
  | none => false
  | some exponent =>
    !(whole.isEmpty && fraction.isEmpty) &&
      isFinite (whole ++ fraction) (exponent - fraction.length)

/-- The spellings of infinity. -/
def isInfinity (text : List Char) : Bool :=
  text = ['.', 'i', 'n', 'f'] || text = ['.', 'I', 'n', 'f'] || text = ['.', 'I', 'N', 'F']

/-- Whether a plain scalar means a number with a fraction, an infinity, or no number. -/
def isFloat (text : List Char) : Bool :=
  if text.head? = some '+' then
    let rest := text.drop 1
    !(rest.head? = some '+' || rest.head? = some '-') && (isInfinity rest || isDecimal rest)
  else if text.head? = some '-' then isInfinity (text.drop 1) || isDecimal (text.drop 1)
  else
    isInfinity text || isDecimal text || text = ['.', 'n', 'a', 'n'] ||
      text = ['.', 'N', 'a', 'N'] || text = ['.', 'N', 'A', 'N']

/-- Whether a plain scalar means nothing. -/
def isNull (text : List Char) : Bool :=
  text.isEmpty || text = ['~'] || text = ['n', 'u', 'l', 'l'] || text = ['N', 'u', 'l', 'l'] ||
    text = ['N', 'U', 'L', 'L']

/-- Whether a plain scalar means a truth value. -/
def isBoolean (text : List Char) : Bool :=
  text = ['t', 'r', 'u', 'e'] || text = ['T', 'r', 'u', 'e'] || text = ['T', 'R', 'U', 'E'] ||
    text = ['f', 'a', 'l', 's', 'e'] || text = ['F', 'a', 'l', 's', 'e'] ||
    text = ['F', 'A', 'L', 'S', 'E']

/-- Whether a number with zeros in front, which some readers would take for a number. -/
def looksNumeric (text : List Char) : Bool :=
  match text with
  | '+' :: rest | '-' :: rest => isZeroPadded rest
  | _ => isZeroPadded text

/-- Whether a plain scalar with this text would, or might, mean something else. -/
def isAmbiguous (text : List Char) : Bool :=
  isNull text || isBoolean text || isInteger text || isFloat text || looksNumeric text

end InteractiveMobs.Yaml
