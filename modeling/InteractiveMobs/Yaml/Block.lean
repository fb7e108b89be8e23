import InteractiveMobs.Yaml.Chars
import InteractiveMobs.Yaml.Error

/-!
# Block scalars

A block scalar is the lines below its header that are indented enough. A literal one keeps its
line breaks, a folded one joins neighbouring lines that start with no blank. The header may say
how far the lines are indented, and whether the line breaks at the end are dropped or kept.
-/

namespace InteractiveMobs.Yaml.Block
set_option autoImplicit false

/-- What becomes of the line breaks at the end. -/
inductive Chomping where
  | strip
  /-- One is kept. -/
  | clip
  | keep
deriving DecidableEq, Repr

/-- The header of a block scalar. -/
structure Header where
  chomping : Chomping := .clip
  /-- How much further than its parent the scalar is indented, where the header says. -/
  increment : Option Nat := none
deriving DecidableEq, Repr

/-- The chomping an indicator stands for. -/
def chomping? (c : Char) : Option Chomping :=
  if c = '-' then some .strip else if c = '+' then some .keep else none

/-- Reads an increment, a digit other than zero, where there is a digit. -/
def readIncrement : List Char → Except Error (Option Nat × List Char)
  | [] => .ok (none, [])
  | c :: rest =>
    if c = '0' then .error .badBlockHeader
    else if c.isDigit then .ok (some (c.toNat - 48), rest)
    else .ok (none, c :: rest)

/-- Reads a chomping indicator, where there is one. -/
def readChomping : List Char → Option Chomping × List Char
  | [] => (none, [])
  | c :: rest =>
    match chomping? c with
    | some chomping => (some chomping, rest)
    | none => (none, c :: rest)

/-- Reads the two indicators in either order. -/
def readHeader (text : List Char) : Except Error (Header × List Char) := do
  match readChomping text with
  | (some chomping, rest) =>
    let (increment, rest) ← readIncrement rest
    return (⟨chomping, increment⟩, rest)
  | (none, rest) =>
    match ← readIncrement rest with
    | (none, rest) => return ({}, rest)
    | (some n, rest) =>
      let (chomping, rest) := readChomping rest
      return (⟨chomping.getD .clip, some n⟩, rest)

/-- Reads the rest of a line that may hold a comment only, with its line break. -/
def skipLine (inComment : Bool) : List Char → Except Error (List Char)
  | [] => .ok []
  | c :: rest =>
    if isBreak c then .ok rest
    else if inComment then skipLine true rest
    else if isBlank c then skipLine false rest
    else if c = '#' then skipLine true rest
    else .error .badBlockHeader

/-- A block scalar part of the way through its lines; texts are kept newest first. -/
structure Lines where
  text : List Char := []
  /-- The break that ended the last line with text. -/
  lineBreak : Option Char := none
  /-- The breaks of the empty lines since. -/
  emptyLines : List Char := []
  /-- Whether the last line with text started with a blank. -/
  startedBlank : Bool := false
  /-- The indentation, once it is known. -/
  indent : Option Nat := none
  /-- The widest margin among the lines before the indentation is known. -/
  widest : Nat := 0
deriving DecidableEq, Repr

namespace Lines

/-- A line without text, which ends with `c` after `column` spaces. -/
def endEmpty (lines : Lines) (column : Nat) (c : Char) : Lines :=
  { lines with emptyLines := c :: lines.emptyLines, widest := max lines.widest column }

/-- The breaks between the last line with text and one that starts with `c`. -/
def joint (folded : Bool) (lines : Lines) (c : Char) : List Char :=
  if folded && lines.lineBreak = some '\n' && !lines.startedBlank && !isBlank c then
    if lines.emptyLines.isEmpty then [' '] else lines.emptyLines
  else lines.emptyLines ++ lines.lineBreak.toList

/-- A line with text starts with `c`. -/
def startText (folded : Bool) (lines : Lines) (c : Char) : Lines :=
  { lines with
    text := c :: (lines.joint folded c ++ lines.text)
    lineBreak := none
    emptyLines := []
    startedBlank := isBlank c }

/-- The text of the scalar: its lines, and the breaks at the end as far as they count. -/
def finish (lines : Lines) (chomping : Chomping) : List Char :=
  let last := match chomping with
    | .strip => []
    | .clip => lines.lineBreak.toList
    | .keep => lines.emptyLines ++ lines.lineBreak.toList
  (last ++ lines.text).reverse

end Lines

/-- Reads lines. `margin` is the number of spaces read on the current line, or nothing inside
its text; `least` is the least indentation a scalar may have where its header gives none. -/
def readLines (folded : Bool) (least : Nat) (margin : Option Nat) (lines : Lines) :
    List Char → Except Error (Lines × List Char)
  | [] => .ok (lines, [])
  | c :: rest =>
    match margin with
    | none =>
      if isBreak c then readLines folded least (some 0) { lines with lineBreak := some c } rest
      else readLines folded least none { lines with text := c :: lines.text } rest
    | some column =>
      let inMargin := lines.indent.all (column < ·)
      if inMargin && c = ' ' then readLines folded least (some (column + 1)) lines rest
      else if inMargin && c = '\t' then .error .tabInIndentation
      else if isBreak c then readLines folded least (some 0) (lines.endEmpty column c) rest
      else
        let indent := lines.indent.getD (max (max lines.widest column) least)
        let lines := { lines with indent := some indent }
        if column = indent then readLines folded least none (lines.startText folded c) rest
        else .ok (lines, c :: rest)

/-- Reads a block scalar after its indicator, in a block collection at column `parent` if it is
in one: its text, and what comes after it. -/
def read (folded : Bool) (parent : Option Nat) (text : List Char) :
    Except Error (List Char × List Char) := do
  let (header, rest) ← readHeader text
  let rest ← skipLine false rest
  let least := match parent with
    | some column => column + 1
    | none => 1
  let indent := header.increment.map (parent.getD 0 + ·)
  let (lines, rest) ← readLines folded least (some 0) { indent } rest
  return (lines.finish header.chomping, rest)

end InteractiveMobs.Yaml.Block
