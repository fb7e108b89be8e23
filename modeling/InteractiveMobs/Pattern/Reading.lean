import InteractiveMobs.Pattern.Bracket

/-!
# Patterns

Which texts are regular expressions: characters, classes, groups and choices, with signs of
repetition behind them. Nothing looks around or back, words and digits are known of bytes alone,
and parts do not stand too deep in each other. The texts are those that can stand in braces: they
have no closing brace, so an opening one outside of brackets is never right.
-/

namespace InteractiveMobs.Pattern
set_option autoImplicit false

/-- How deep the parts of a pattern may stand in each other. -/
def maxHeight : Nat := 250

/-- What was read of a group so far. -/
structure Group where
  flags : Flags := {}
  /-- The heights of the choices before the last bar. -/
  choices : List Nat := []
  /-- The heights of the parts since then, newest first; flags that were set have none. -/
  parts : List (Option Nat) := []
deriving DecidableEq, Repr

namespace Group

/-- The group with one more part. -/
def add (group : Group) (height : Nat) : Group := { group with parts := some height :: group.parts }

/-- The height of the parts since the last bar. -/
def partsHeight (group : Group) : Nat := togetherHeight (group.parts.map (·.getD 0))

/-- The group behind a bar. -/
def choose (group : Group) : Group :=
  { group with choices := group.partsHeight :: group.choices, parts := [] }

/-- The height of the whole. -/
def height (group : Group) : Nat := togetherHeight (group.partsHeight :: group.choices)

/-- The group with its last part repeated, if there is one. -/
def repeat? (group : Group) : Option Group :=
  match group.parts with
  | some height :: parts => some { group with parts := some (height + 1) :: parts }
  | _ => none

end Group

/-- A pattern part of the way through its text. -/
structure Reading where
  group : Group := {}
  /-- The open groups around it, innermost first. -/
  around : List Group := []
  /-- The names that groups have. -/
  names : List (List Char) := []
deriving DecidableEq, Repr

namespace Reading

/-- Whether a text can be the name of a group. -/
def isName : List Char → Bool
  | [] => false
  | first :: rest =>
    (first = '_' || isAlphabetic first) &&
      rest.all fun c => c = '_' || c = '.' || c = '[' || c = ']' || isAlphanumeric c

/-- Opens a group in which the given flags hold. -/
def enter (reading : Reading) (flags : Flags) : Reading :=
  { reading with group := { flags }, around := reading.group :: reading.around }

/-- Opens a group with the name in front of an angle. -/
def enterNamed? (reading : Reading) (text : List Char) : Option (Reading × List Char) :=
  let name := text.takeWhile (· ≠ '>')
  match text.drop name.length with
  | _ :: rest =>
    if isName name && !reading.names.contains name then
      some ({ reading.enter reading.group.flags with names := name :: reading.names }, rest)
    else none
  | [] => none

/-- Opens the group behind a parenthesis, or sets flags for the rest of the group. -/
def enter? (reading : Reading) (text : List Char) : Option (Reading × List Char) :=
  match reading.group.flags.skip text with
  | '?' :: '=' :: _ | '?' :: '!' :: _ | '?' :: '<' :: '=' :: _ | '?' :: '<' :: '!' :: _ => none
  | '?' :: 'P' :: '<' :: rest | '?' :: '<' :: rest => reading.enterNamed? rest
  | '?' :: rest => do
    match ← reading.group.flags.read? true [] rest with
    | (flags, _, ':' :: rest) => some (reading.enter flags, rest)
    | (_, [], _) => none
    | (flags, _, rest) =>
      let group := reading.group
      some ({ reading with group := { group with flags, parts := none :: group.parts } },
        rest.drop 1)
  | rest => some (reading.enter reading.group.flags, rest)

/-- Closes the group. -/
def leave? (reading : Reading) : Option Reading :=
  match reading.around with
  | group :: around =>
    some { reading with group := group.add (1 + reading.group.height), around }
  | [] => none

/-- The reading with one more part in its group. -/
def add (reading : Reading) (height : Nat) : Reading :=
  { reading with group := reading.group.add height }

/-- Reads what starts with `c`. -/
def step? (reading : Reading) (c : Char) (rest : List Char) : Option (Reading × List Char) :=
  let flags := reading.group.flags
  match c with
  | '(' => reading.enter? rest
  | ')' => reading.leave?.map (·, rest)
  | '|' => some ({ reading with group := reading.group.choose }, rest)
  | '[' => do
    let (height, rest) ← Bracket.read? flags rest
    return (reading.add height, rest)
  | '*' | '+' | '?' => do
    let group ← reading.group.repeat?
    return ({ reading with group }, if rest.head? = some '?' then rest.drop 1 else rest)
  | '{' => none
  | '\\' => do
    let (escape, rest) ← Escape.read? flags rest
    if escape.isUsable flags then some (reading.add 0, rest) else none
  | '.' => if flags.unicode then some (reading.add 0, rest) else none
  | '^' | '$' => some (reading.add 0, rest)
  | _ => if flags.allowsChars then some (reading.add 0, rest) else none

/-- Whether the text is the rest of a pattern. Every step takes a character, so as many steps as
there are characters, and one for the end, are enough. -/
def accepts : Nat → Reading → List Char → Bool
  | 0, _, _ => false
  | steps + 1, reading, text =>
    match reading.group.flags.skip text with
    | [] => reading.around.isEmpty && reading.group.height ≤ maxHeight
    | c :: rest => (reading.step? c rest).any fun (reading, rest) => accepts steps reading rest

end Reading

/-- Whether a text without a closing brace is a pattern. -/
def isValid (text : List Char) : Bool := Reading.accepts (text.length + 1) {} text

end InteractiveMobs.Pattern
