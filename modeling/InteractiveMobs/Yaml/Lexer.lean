import InteractiveMobs.Yaml.Block
import InteractiveMobs.Yaml.Plain
import InteractiveMobs.Yaml.Property
import InteractiveMobs.Yaml.SingleQuoted

/-!
# The tokens of a text

Indentation opens and closes block collections. A mapping key is known for one only when its
colon is met, which has to be on the same line and not too far on, so the lexer remembers where
a key may have begun and, at the colon, puts the key's token there.
-/

namespace InteractiveMobs.Yaml
set_option autoImplicit false

/-- A place in a text: lines, characters of the line, and bytes of the text before it. -/
structure Position where
  line : Nat := 0
  column : Nat := 0
  index : Nat := 0
deriving DecidableEq, Repr

namespace Position

/-- The place behind one more character. -/
def next (position : Position) (c : Char) : Position :=
  let index := position.index + c.utf8Size
  if isBreak c then ⟨position.line + 1, 0, index⟩
  else { position with column := position.column + 1, index }

/-- The place behind more characters. -/
def after (position : Position) (passed : List Char) : Position := passed.foldl next position

end Position

/-- A token that may turn out to be the first of a mapping key. -/
structure PossibleKey where
  /-- Whether its line makes no sense without a colon. -/
  required : Bool
  /-- The number of tokens before it. -/
  tokensBefore : Nat
  position : Position
deriving DecidableEq, Repr

namespace PossibleKey

/-- The most bytes between the start of a key and its colon. -/
def maxLength : Nat := 1024

/-- Whether a colon at `position` comes too late for the key. -/
def isStale (key : PossibleKey) (position : Position) : Bool :=
  key.position.line < position.line || key.position.index + maxLength < position.index

end PossibleKey

/-- The lexer part of the way through a text. -/
structure Lexer where
  rest : List Char
  position : Position := {}
  /-- The tokens so far, newest first. -/
  tokens : List Token := []
  /-- The columns of the open block collections, innermost first. -/
  indents : List Nat := []
  /-- Whether a key may begin here. -/
  keyAllowed : Bool := true
  /-- The possible key of the innermost collection. -/
  possibleKey : Option PossibleKey := none
  /-- The possible keys around each open flow collection, innermost first. -/
  outerKeys : List (Option PossibleKey) := []
deriving DecidableEq, Repr

namespace Lexer

/-- Whether the lexer is inside a flow collection. -/
def inFlow (lexer : Lexer) : Bool := !lexer.outerKeys.isEmpty

/-- Goes on to `rest`, an end of what is left of the text. -/
def moveTo (lexer : Lexer) (rest : List Char) : Lexer :=
  let passed := lexer.rest.take (lexer.rest.length - rest.length)
  { lexer with rest, position := lexer.position.after passed }

/-- Passes `n` characters. -/
def skip (lexer : Lexer) (n : Nat) : Lexer := lexer.moveTo (lexer.rest.drop n)

/-- Adds a token. -/
def emit (lexer : Lexer) (token : Token) : Lexer := { lexer with tokens := token :: lexer.tokens }

/-- Adds a token that stands behind the first `count` tokens. -/
def emitAfter (lexer : Lexer) (count : Nat) (token : Token) : Lexer :=
  let later := lexer.tokens.length - count
  { lexer with tokens := lexer.tokens.take later ++ token :: lexer.tokens.drop later }

/-! ### White space -/

/-- Where in its line white space goes on. -/
inductive LinePart where
  /-- Before the first character. -/
  | margin
  | inside
  | comment
deriving DecidableEq, Repr

/-- Passes white space and comments: whether a key may begin behind it, and what is left. In a
block a new line allows keys, and tabs may not come where a key may begin. A byte order mark
counts as white space where it is the first character of its line. -/
def skipSpacing (flow keyAllowed : Bool) (part : LinePart) : List Char → Bool × List Char
  | [] => (keyAllowed, [])
  | c :: rest =>
    if isBreak c then skipSpacing flow (keyAllowed || !flow) .margin rest
    else if part = .comment then skipSpacing flow keyAllowed .comment rest
    else if c = ' ' || (c = '\t' && (flow || !keyAllowed)) ||
        (c = byteOrderMark && part = .margin) then
      skipSpacing flow keyAllowed .inside rest
    else if c = '#' then skipSpacing flow keyAllowed .comment rest
    else (keyAllowed, c :: rest)

/-- Passes white space and comments. -/
def passSpacing (lexer : Lexer) : Lexer :=
  let part := if lexer.position.column = 0 then LinePart.margin else .inside
  let (keyAllowed, rest) := skipSpacing lexer.inFlow lexer.keyAllowed part lexer.rest
  { lexer.moveTo rest with keyAllowed }

/-! ### Possible keys -/

/-- A possible key, unless a colon here would come too late for it. -/
def refresh (position : Position) : Option PossibleKey → Except Error (Option PossibleKey)
  | none => .ok none
  | some key =>
    if !key.isStale position then .ok (some key)
    else if key.required then .error .missingColon
    else .ok none

/-- Forgets the possible keys for which a colon here would come too late. -/
def refreshKeys (lexer : Lexer) : Except Error Lexer := do
  let possibleKey ← refresh lexer.position lexer.possibleKey
  let outerKeys ← lexer.outerKeys.mapM (refresh lexer.position)
  return { lexer with possibleKey, outerKeys }

/-- Forgets the possible key of the innermost collection. -/
def dropKey (lexer : Lexer) : Except Error Lexer :=
  if lexer.possibleKey.any (·.required) then .error .missingColon
  else .ok { lexer with possibleKey := none }

/-- Remembers the next token as a possible key, where one may begin. -/
def saveKey (lexer : Lexer) : Except Error Lexer :=
  if lexer.keyAllowed then do
    let lexer ← lexer.dropKey
    return { lexer with possibleKey := some {
      required := !lexer.inFlow && lexer.indents.head? = some lexer.position.column
      tokensBefore := lexer.tokens.length
      position := lexer.position } }
  else .ok lexer

/-! ### Indentation -/

/-- Opens a block collection at `column`, unless one is open there or further in; its token
stands behind the first `count` tokens. -/
def openBlock (lexer : Lexer) (column count : Nat) (start : Token) : Lexer :=
  if lexer.inFlow || lexer.indents.head?.any (column ≤ ·) then lexer
  else { lexer.emitAfter count start with indents := column :: lexer.indents }

/-- Closes the block collections that stand further in than `column`. -/
def closeBlocks (lexer : Lexer) (column : Nat) : Lexer :=
  if lexer.inFlow then lexer
  else
    let closed := lexer.indents.takeWhile (column < ·)
    { lexer with
      tokens := closed.map (fun _ => Token.blockEnd) ++ lexer.tokens
      indents := lexer.indents.dropWhile (column < ·) }

/-- Closes every block collection. -/
def closeAllBlocks (lexer : Lexer) : Lexer :=
  if lexer.inFlow then lexer
  else
    { lexer with
      tokens := lexer.indents.map (fun _ => Token.blockEnd) ++ lexer.tokens
      indents := [] }

/-! ### Tokens -/

/-- Passes a directive or the mark of a document, which no block collection goes over. -/
def endBlocks (lexer : Lexer) : Except Error Lexer := do
  let lexer ← lexer.closeAllBlocks.dropKey
  return { lexer with keyAllowed := false }

/-- The start of a flow collection. -/
def openFlow (lexer : Lexer) (start : Token) : Except Error Lexer := do
  let lexer ← lexer.saveKey
  return { (lexer.emit start).skip 1 with
    keyAllowed := true, possibleKey := none, outerKeys := lexer.possibleKey :: lexer.outerKeys }

/-- The end of a flow collection. -/
def closeFlow (lexer : Lexer) (stop : Token) : Except Error Lexer := do
  let lexer ← lexer.dropKey
  let closed := { (lexer.emit stop).skip 1 with keyAllowed := false }
  match lexer.outerKeys with
  | [] => return closed
  | key :: outer => return { closed with possibleKey := key, outerKeys := outer }

/-- The comma of a flow collection. -/
def flowEntry (lexer : Lexer) : Except Error Lexer := do
  let lexer ← lexer.dropKey
  return { (lexer.emit .flowEntry).skip 1 with keyAllowed := true }

/-- The hyphen of a block sequence. -/
def blockEntry (lexer : Lexer) : Except Error Lexer := do
  if !lexer.inFlow && !lexer.keyAllowed then throw (.misplacedIndicator '-')
  let opened := lexer.openBlock lexer.position.column lexer.tokens.length .blockSequenceStart
  let lexer ← opened.dropKey
  return { (lexer.emit .blockEntry).skip 1 with keyAllowed := true }

/-- The question mark of an explicit key. -/
def explicitKey (lexer : Lexer) : Except Error Lexer := do
  if !lexer.inFlow && !lexer.keyAllowed then throw (.misplacedIndicator '?')
  let opened := lexer.openBlock lexer.position.column lexer.tokens.length .blockMappingStart
  let lexer ← opened.dropKey
  return { (lexer.emit .key).skip 1 with keyAllowed := !lexer.inFlow }

/-- The colon of a value. If a key may have begun before it, it did. -/
def value (lexer : Lexer) : Except Error Lexer := do
  match lexer.possibleKey with
  | some key =>
    let keyed := lexer.emitAfter key.tokensBefore .key
    let opened := keyed.openBlock key.position.column key.tokensBefore .blockMappingStart
    return { (opened.emit .value).skip 1 with possibleKey := none, keyAllowed := false }
  | none =>
    if !lexer.inFlow && !lexer.keyAllowed then throw (.misplacedIndicator ':')
    let opened := lexer.openBlock lexer.position.column lexer.tokens.length .blockMappingStart
    return { (opened.emit .value).skip 1 with keyAllowed := !lexer.inFlow }

/-- A token that may be a key and was read up to `rest`. -/
def word (lexer : Lexer) (token : Token) (rest : List Char) : Except Error Lexer := do
  let lexer ← lexer.saveKey
  return { (lexer.emit token).moveTo rest with keyAllowed := false }

/-- An alias or an anchor. -/
def name (lexer : Lexer) (token : String → Token) : Except Error Lexer := do
  let (name, rest) ← Property.readName (lexer.rest.drop 1)
  lexer.word (token name) rest

/-- A block scalar, which is never a key. -/
def blockScalar (lexer : Lexer) (style : ScalarStyle) : Except Error Lexer := do
  let lexer ← lexer.dropKey
  let (text, rest) ← Block.read (style = .folded) lexer.indents.head? (lexer.rest.drop 1)
  return { (lexer.emit (.scalar style (String.ofList text))).moveTo rest with keyAllowed := true }

/-- A plain scalar. If it ends with its line, a key may begin behind it. -/
def plainScalar (lexer : Lexer) : Except Error Lexer := do
  let indent := match lexer.indents.head? with
    | some column => column + 1
    | none => 0
  let lexeme ← Plain.read lexer.inFlow indent .none [] lexer.rest
  let lexer ← lexer.word (.scalar .plain (String.ofList lexeme.text)) lexeme.rest
  return { lexer with keyAllowed := lexeme.crossedBreak }

/-- Reads the token that starts with `c`. -/
def token (lexer : Lexer) (c : Char) (rest : List Char) : Except Error Lexer := do
  let text := lexer.rest
  let atMargin := lexer.position.column = 0
  let flow := lexer.inFlow
  if atMargin && c = '%' then
    let lexer ← lexer.endBlocks
    let (directive, rest) ← Property.readDirective text
    return (lexer.emit directive).moveTo rest
  else if atMargin && startsMark '-' text then
    return ((← lexer.endBlocks).emit .documentStart).skip 3
  else if atMargin && startsMark '.' text then
    return ((← lexer.endBlocks).emit .documentEnd).skip 3
  else if c = '[' then lexer.openFlow .flowSequenceStart
  else if c = '{' then lexer.openFlow .flowMappingStart
  else if c = ']' then lexer.closeFlow .flowSequenceEnd
  else if c = '}' then lexer.closeFlow .flowMappingEnd
  else if c = ',' then lexer.flowEntry
  else if c = '-' && startsSpacing rest then lexer.blockEntry
  else if c = '?' && (flow || startsSpacing rest) then lexer.explicitKey
  else if c = ':' && (flow || startsSpacing rest) then lexer.value
  else if c = '*' then lexer.name .reference
  else if c = '&' then lexer.name .anchor
  else if c = '!' then
    let (tag, rest) ← Property.readTag flow text
    lexer.word tag rest
  else if c = '|' && !flow then lexer.blockScalar .literal
  else if c = '>' && !flow then lexer.blockScalar .folded
  else if c = '\'' then
    let (text, rest) ← SingleQuoted.read .none [] rest
    lexer.word (.scalar .singleQuoted (String.ofList text)) rest
  else if c = '"' then
    let (text, rest) ← DoubleQuoted.read .none .none [] rest
    lexer.word (.scalar .doubleQuoted (String.ofList text)) rest
  else if Plain.starts flow text then lexer.plainScalar
  else throw (.noSuchToken c)

/-- The lexer before its next token: behind the white space, with what the new column closes. -/
def settle (lexer : Lexer) : Except Error Lexer := do
  let lexer ← lexer.passSpacing.refreshKeys
  return lexer.closeBlocks lexer.position.column

/-- All tokens of the text. Every token takes at least one character, so as many steps as there
are characters, and one for the end, are enough. -/
def run : Nat → Lexer → Except Error (List Token)
  | 0, _ => .error .unexpectedToken
  | steps + 1, lexer => do
    let lexer ← lexer.settle
    match lexer.rest with
    | [] => do
      let lexer ← lexer.endBlocks
      return lexer.tokens.reverse
    | c :: rest => do run steps (← lexer.token c rest)

end Lexer

/-- The tokens of a text. -/
def tokens (text : String) : Except Error (List Token) :=
  match text.toList.find? (!isAllowed ·) with
  | some c => .error (.forbiddenCharacter c)
  | none =>
    let text := unifyBreaks text.toList
    Lexer.run (text.length + 1) { rest := text }

end InteractiveMobs.Yaml
