import InteractiveMobs.Pattern.Escape

/-!
# Brackets of a pattern

A class of characters in brackets lists characters, ranges and other classes, and may combine
lists by two signs. What is known of a class is its height: how deep brackets, lists and
combinations stand in each other.
-/

namespace InteractiveMobs.Pattern
set_option autoImplicit false

/-- The height of several parts taken together. A single part needs nothing around it. -/
def togetherHeight : List Nat → Nat
  | [] => 0
  | [height] => height
  | heights => 1 + heights.foldl max 0

namespace Bracket

/-- What is still open around a list. -/
inductive Opened where
  /-- A bracket, with the heights of the parts before it. -/
  | bracket (before : List Nat)
  /-- A combination, with the height of its left side. -/
  | combination (left : Nat)
deriving DecidableEq, Repr

/-- The names of classes between colons. -/
def classNames : List String :=
  ["alnum", "alpha", "ascii", "blank", "cntrl", "digit", "graph", "lower", "print", "punct",
    "space", "upper", "word", "xdigit"]

/-- A named class behind its bracket: whether it is negated, and what stands behind it. -/
def readNamed? : List Char → Option (Bool × List Char)
  | ':' :: rest =>
    let negated := rest.head? = some '^'
    let rest := if negated then rest.drop 1 else rest
    let name := rest.takeWhile (· ≠ ':')
    match rest.drop name.length with
    | ':' :: ']' :: rest =>
      if classNames.contains (String.ofList name) then some (negated, rest) else none
    | _ => none
  | _ => none

/-- Whether all but some characters can be meant: bytes beyond ASCII are no characters. -/
def allowsNegation (flags : Flags) : Bool := flags.unicode

/-- Whether a character can be listed. -/
def allowsListed (flags : Flags) (c : Char) : Bool :=
  if flags.unicode then flags.allowsChars else c.toNat < 0x80

/-- The start of a bracket behind its sign: the text behind the sign of negation. -/
def readStart? (flags : Flags) (text : List Char) : Option (List Char) :=
  match flags.skip text with
  | '^' :: rest => if allowsNegation flags then some rest else none
  | rest => some rest

/-- One character, or none for a class, and what stands behind it. -/
def readChar? (flags : Flags) : List Char → Option (Option Char × List Char)
  | [] => none
  | '\\' :: rest => do
    match ← Escape.read? flags rest with
    | (.char c _, rest) => if allowsListed flags c then some (some c, rest) else none
    | (.shorthand negated, rest) =>
      if (Escape.shorthand negated).isUsable flags then some (none, rest) else none
    | _ => none
  | c :: rest => if allowsListed flags c then some (some c, rest) else none

/-- The character that is looked for behind a hyphen, to tell whether it makes a range. -/
def peek? (flags : Flags) (text : List Char) : Option Char :=
  if flags.spaced then
    let rest := text.dropWhile isWhiteSpace
    let rest := if rest.head? = some '#' then (rest.drop 1).dropWhile isWhiteSpace else rest
    rest.head? <|> text.head?
  else text.head?

/-- A character, a class or a range, whose ends are in order; what stands behind it. -/
def readItem? (flags : Flags) (text : List Char) : Option (List Char) := do
  let (first, rest) ← readChar? flags text
  match flags.skip rest with
  | '-' :: rest =>
    if peek? flags rest = some ']' || peek? flags rest = some '-' then return '-' :: rest
    let (last, rest) ← readChar? flags (flags.skip rest)
    if (← first) ≤ (← last) then some rest else none
  | rest => some rest

/-- Ends the right side of a combination, if one is open. -/
def combine (height : Nat) : List Opened → Nat × List Opened
  | .combination left :: opened => (1 + max left height, opened)
  | opened => (height, opened)

/-- The height of a class and what stands behind it, given what is open, whether a hyphen or a
closing bracket here would be the first of its list, and the heights of the parts so far. Every
step takes a character, so as many steps as there are characters are enough. -/
def readList? (flags : Flags) :
    Nat → List Opened → Bool → List Nat → List Char → Option (Nat × List Char)
  | 0, _, _, _, _ => none
  | steps + 1, opened, first, parts, text =>
    let combined (rest : List Char) :=
      let (left, opened) := combine (togetherHeight parts) opened
      readList? flags steps (.combination left :: opened) false [] rest
    match flags.skip text with
    | [] => none
    | c :: rest =>
      if first && c = '-' then
        if allowsListed flags c then readList? flags steps opened true (0 :: parts) rest else none
      else if first && parts.isEmpty && c = ']' then
        if allowsListed flags c then readList? flags steps opened false [0] rest else none
      else if c = ']' then
        let (height, opened) := combine (togetherHeight parts) opened
        match opened with
        | [.bracket _] => some (1 + height, rest)
        | .bracket before :: opened =>
          readList? flags steps opened false ((1 + height) :: before) rest
        | _ => none
      else if c = '[' then
        match readNamed? rest with
        | some (negated, rest) =>
          if flags.allowsChars && (!negated || allowsNegation flags) then
            readList? flags steps opened false (0 :: parts) rest
          else none
        | none => do
          readList? flags steps (.bracket parts :: opened) true [] (← readStart? flags rest)
      else if (c = '&' || c = '-' || c = '~') && rest.head? = some c then combined (rest.drop 1)
      else do readList? flags steps opened false (0 :: parts) (← readItem? flags (c :: rest))

/-- The height of a class behind its first bracket, and what stands behind it. -/
def read? (flags : Flags) (text : List Char) : Option (Nat × List Char) := do
  let start ← readStart? flags text
  readList? flags (text.length + 1) [.bracket []] true [] start

end Bracket
end InteractiveMobs.Pattern
