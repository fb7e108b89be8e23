import InteractiveMobs.Yaml.Chars
import InteractiveMobs.Yaml.DoubleQuoted
import InteractiveMobs.Yaml.Error
import InteractiveMobs.Yaml.Token

/-!
# Names, tags and directives

The small tokens around scalars: names of anchors, tags with their handles and escapes, and the
directives in front of a document. Each reader takes the characters from the token's own mark
on and answers with the rest.
-/

namespace InteractiveMobs.Yaml.Property
set_option autoImplicit false

/-- Whether the name of an anchor may end before these characters. -/
def endsName : List Char → Bool
  | [] => true
  | c :: _ =>
    isSpacing c || c = '?' || c = ':' || c = ',' || c = ']' || c = '}' || c = '%' || c = '@' ||
      c = '\x60'

/-- Reads the name of an anchor or alias. -/
def readName (text : List Char) : Except Error (String × List Char) :=
  let name := text.takeWhile isWord
  let rest := text.dropWhile isWord
  if name.isEmpty || !endsName rest then .error .badAnchor else .ok (String.ofList name, rest)

/-- Whether a tag may hold the character as it is; `verbatim` allows a few more. -/
def isTagChar (verbatim : Bool) (c : Char) : Bool :=
  isWord c || c = ';' || c = '/' || c = '?' || c = ':' || c = '@' || c = '&' || c = '=' ||
    c = '+' || c = '$' || c = '.' || c = '!' || c = '~' || c = '*' || c = '\'' || c = '(' ||
    c = ')' || (verbatim && (c = ',' || c = '[' || c = ']'))

/-- The number of octets of a character that starts with the octet, and the octet's share of it. -/
def leadingOctet? (octet : Nat) : Option (Nat × Nat) :=
  if octet < 0x80 then some (1, octet)
  else if 0xC0 ≤ octet ∧ octet < 0xE0 then some (2, octet - 0xC0)
  else if 0xE0 ≤ octet ∧ octet < 0xF0 then some (3, octet - 0xE0)
  else if 0xF0 ≤ octet ∧ octet < 0xF8 then some (4, octet - 0xF0)
  else none

/-- Reads the characters of a tag, given those read so far, newest first. Escaped characters are
written octet by octet: `pending` is the number of octets still to come, and the value so far. -/
def readTagText (verbatim : Bool) (pending : Option (Nat × Nat)) (newest : List Char) :
    List Char → Except Error (List Char × List Char)
  | c :: high :: low :: rest =>
    if c = '%' then
      match DoubleQuoted.hexValue? high, DoubleQuoted.hexValue? low with
      | some high, some low =>
        let octet := high * 16 + low
        let next := match pending with
          | none => leadingOctet? octet
          | some (count, value) =>
            if 0x80 ≤ octet ∧ octet < 0xC0 then some (count, value * 64 + (octet - 0x80)) else none
        match next with
        | none => .error .badTag
        | some (1, value) => readTagText verbatim none (Char.ofNat value :: newest) rest
        | some (count, value) => readTagText verbatim (some (count - 1, value)) newest rest
      | _, _ => .error .badTag
    else if pending.isSome then .error .badTag
    else if isTagChar verbatim c then readTagText verbatim none (c :: newest) (high :: low :: rest)
    else .ok (newest.reverse, c :: high :: low :: rest)
  | text =>
    let taken := text.takeWhile (isTagChar verbatim)
    let rest := text.dropWhile (isTagChar verbatim)
    if pending.isSome || rest.head? = some '%' then .error .badTag
    else .ok (newest.reverse ++ taken, rest)

/-- Reads a tag's characters, of which there has to be one. -/
def readSuffix (verbatim : Bool) (text : List Char) : Except Error (List Char × List Char) := do
  let (suffix, rest) ← readTagText verbatim none [] text
  if suffix.isEmpty then .error .badTag else .ok (suffix, rest)

/-- Whether a tag may end before these characters. -/
def endsTag (flow : Bool) (text : List Char) : Bool :=
  startsSpacing text || (flow && text.head? = some ',')

/-- Reads a tag: `!<…>` in full, `!handle!suffix`, or `!suffix`; a lone `!` has no handle. -/
def readTag (flow : Bool) (text : List Char) : Except Error (Token × List Char) := do
  let text := text.drop 1
  let (token, rest) ←
    if text.head? = some '<' then do
      let (suffix, rest) ← readSuffix true (text.drop 1)
      if rest.head? = some '>' then .ok (Token.tag "" (String.ofList suffix), rest.drop 1)
      else .error .badTag
    else
      let word := text.takeWhile isWord
      let rest := text.dropWhile isWord
      if rest.head? = some '!' then do
        let (suffix, rest) ← readSuffix false (rest.drop 1)
        .ok (Token.tag (String.ofList ('!' :: word ++ ['!'])) (String.ofList suffix), rest)
      else do
        let (suffix, rest) ← readTagText false none [] text
        if suffix.isEmpty then .ok (Token.tag "" "!", rest)
        else .ok (Token.tag "!" (String.ofList suffix), rest)
  if endsTag flow rest then .ok (token, rest) else .error .badTag

/-- Reads a decimal number of at most nine digits. -/
def readNumber (text : List Char) : Except Error (Nat × List Char) :=
  let digits := text.takeWhile Char.isDigit
  if digits.isEmpty || digits.length > 9 then .error .badDirective
  else .ok (digits.foldl (fun n c => n * 10 + (c.toNat - 48)) 0, text.dropWhile Char.isDigit)

/-- Reads the handle that a tag directive defines: `!`, `!!` or `!name!`. -/
def readHandle (text : List Char) : Except Error (List Char × List Char) :=
  if text.head? = some '!' then
    let word := (text.drop 1).takeWhile isWord
    let rest := (text.drop 1).dropWhile isWord
    if rest.head? = some '!' then .ok ('!' :: word ++ ['!'], rest.drop 1)
    else if word.isEmpty then .ok (['!'], rest)
    else .error .badDirective
  else .error .badDirective

/-- Reads what a line may still hold: blanks and a comment. -/
def endLine (text : List Char) : Except Error (List Char) :=
  let rest := text.dropWhile isBlank
  let rest := if rest.head? = some '#' then rest.dropWhile (!isBreak ·) else rest
  match rest with
  | [] => .ok []
  | c :: rest => if isBreak c then .ok rest else .error .badDirective

/-- Reads a directive with the rest of its line. -/
def readDirective (text : List Char) : Except Error (Token × List Char) := do
  let text := text.drop 1
  let name := text.takeWhile isWord
  let rest := text.dropWhile isWord
  if !startsSpacing rest then .error .badDirective
  else if name = ['Y', 'A', 'M', 'L'] then
    let (major, rest) ← readNumber (rest.dropWhile isBlank)
    if rest.head? = some '.' then
      let (minor, rest) ← readNumber (rest.drop 1)
      return (.versionDirective major minor, ← endLine rest)
    else .error .badDirective
  else if name = ['T', 'A', 'G'] then
    let (handle, rest) ← readHandle (rest.dropWhile isBlank)
    if !(rest.head?.any isBlank) then .error .badDirective
    else
      let (expansion, rest) ← readSuffix true (rest.dropWhile isBlank)
      if !startsSpacing rest then .error .badDirective
      else return (.tagDirective (String.ofList handle) (String.ofList expansion), ← endLine rest)
  else .error .badDirective

end InteractiveMobs.Yaml.Property
