/-!
# Control sequences

A text for a terminal may hold control characters and sequences of characters that are commands.
Where no terminal reads it, only what it shows is kept: letters, white space, and every character
outside ASCII that is no part of a command.
-/

namespace InteractiveMobs.Terminal
set_option autoImplicit false

/-- Where in a control sequence a text is. -/
inductive SequencePart where
  /-- Outside of sequences. -/
  | shown
  /-- Behind the escape character. -/
  | escape
  /-- In a short sequence that one more character ends. -/
  | short
  /-- In a sequence that a letter ends, such as a color. -/
  | control
  /-- In a command to the system that shows the terminal, such as its title. -/
  | system
  /-- Before the parameters of a device string, among them, and behind them. -/
  | deviceStart
  | deviceParameters
  | deviceMarks
  /-- In the text of a string that is not shown. -/
  | hidden
deriving DecidableEq, Repr

namespace SequencePart

/-- White space among the control characters. -/
def isSpacing (c : Char) : Bool := c = '\t' || c = '\n' || c = '\x0c' || c = '\r'

/-- Whether the character is one of those between two, ends included. -/
def isBetween (low high c : Char) : Bool := low ≤ c && c ≤ high

/-- A mark in front of what ends a sequence. -/
def isMark (c : Char) : Bool := isBetween ' ' '/' c

/-- Whether a character ends a sequence with parameters. -/
def isFinal (c : Char) : Bool := isBetween '@' '~' c

/-- Whether the code of a character has the byte that ends strings. -/
def endsString (c : Char) : Bool := (String.utf8EncodeChar c).contains 0x9C

/-- The part of the kind of sequence that the character behind an escape announces. -/
def ofEscape (c : Char) : SequencePart :=
  if isMark c then short
  else match c with
    | '[' => control
    | ']' => system
    | 'P' => deviceStart
    | 'X' | '^' | '_' => hidden
    | _ => if isBetween '0' '~' c then shown else escape

/-- The part behind a character inside a device string. -/
def inDevice (part : SequencePart) (c : Char) : SequencePart :=
  if isFinal c then hidden
  else if isMark c then deviceMarks
  else if isBetween '0' ';' c then if part = deviceMarks then hidden else deviceParameters
  else if isBetween '<' '?' c then if part = deviceStart then deviceParameters else hidden
  else part

/-- The part behind a character, if the character is no escape. -/
def inside (part : SequencePart) (c : Char) : SequencePart :=
  match part with
  | shown => shown
  | escape => ofEscape c
  | short => if isBetween '0' '~' c then shown else short
  | control => if isFinal c then shown else control
  | system => if c = '\x07' then shown else system
  | deviceStart | deviceParameters | deviceMarks => part.inDevice c
  | hidden => if endsString c then shown else hidden

/-- Whether white space is shown although the sequence goes on. -/
def showsSpacing : SequencePart → Bool
  | escape | short | control => true
  | _ => false

/-- Whether a character can be shown. -/
def isShowable (c : Char) : Bool := isSpacing c || (' ' ≤ c && c ≠ '\x7f')

end SequencePart

/-- The state of a text part of the way through. White space inside a sequence interrupts it:
what can be shown is shown up to the next control character, where the sequence goes on, unless a
character outside ASCII came before. -/
structure Sequence where
  part : SequencePart := .shown
  interrupted : Bool := false
deriving DecidableEq, Repr

namespace Sequence

/-- The state behind one more character, and whether the character is shown. -/
def step (state : Sequence) (c : Char) : Sequence × Bool :=
  if c = '\x1b' then ({ part := .escape }, false)
  else if c = '\x18' || c = '\x1a' then ({}, false)
  else if state.part = .shown then ({}, SequencePart.isShowable c)
  else if state.interrupted && SequencePart.isShowable c then
    (if c.toNat < 0x80 then state else {}, true)
  else if state.part.showsSpacing && SequencePart.isSpacing c then
    ({ state with interrupted := true }, true)
  else ({ part := state.part.inside c }, false)

/-- What a text shows, given the state before it. -/
def keep (state : Sequence) : List Char → List Char
  | [] => []
  | c :: rest =>
    let (next, isShown) := state.step c
    if isShown then c :: keep next rest else keep next rest

end Sequence

/-- What a text shows, without control sequences and control characters. -/
def withoutControls (text : String) : String :=
  String.ofList (({} : Sequence).keep text.toList)

end InteractiveMobs.Terminal
