import InteractiveMobs.Terminal.Follower
import InteractiveMobs.Terminal.Ranges

/-!
# Columns

How many columns a line takes on a terminal. Most characters take one, those of East Asian
scripts two, and marks none. Some take columns back: what stands behind a character says how much
it adds.
-/

namespace InteractiveMobs.Terminal
set_option autoImplicit false

/-- The columns of a character by itself; control characters take one. -/
def charWidth (c : Char) : Nat :=
  if c.toNat ≤ 0xA0 then 1
  else if c = '\u17D8' then 3
  else if c = '\u17A4' then 2
  else if isIn zeroRanges c then 0
  else if isIn wideRanges c then 2
  else 1

/-! ### Classes -/

/-- Asks for the picture of the character before it. -/
def pictureSelector : Char := '\uFE0F'

/-- Asks for the sign instead of the picture before it. -/
def signSelector : Char := '\uFE0E'

/-- Makes one of what is on both sides. -/
def joiner : Char := '\u200D'

/-- Puts a key around the character before it. -/
def keycap : Char := '\u20E3'

/-- The flag that tags say more about. -/
def blackFlag : Char := .ofNat 0x1F3F4

/-- Ends the tags behind a flag. -/
def lastTag : Char := .ofNat 0xE007F

/-- Whether a character gives the picture before it another skin tone. -/
def isSkinTone (c : Char) : Bool := isIn [(0x1F3FB, 0x1F3FF)] c

/-- Whether a character is one of the letters that name a flag by twos. -/
def isFlagLetter (c : Char) : Bool := isIn [(0x1F1E6, 0x1F1FF)] c

/-- Whether a character is shown as a picture. -/
def isPicture (c : Char) : Bool := isIn pictureRanges c

/-- Whether a selector turns the character into a picture. -/
def isSelectable (c : Char) : Bool := isIn selectableRanges c

/-- Whether a selector makes a narrow sign of the character, which ideographs on a square
are not. -/
def isNarrowing (c : Char) : Bool :=
  isPicture c && isSelectable c && !isIn [(0x1F200, 0x1F2FF)] c

/-- An Arabic lam. -/
def isLam (c : Char) : Bool :=
  isIn [(0x644, 0x644), (0x6B5, 0x6B8), (0x76A, 0x76A), (0x8A6, 0x8A6), (0x8C7, 0x8C7)] c

/-- An Arabic alef. -/
def isAlef (c : Char) : Bool :=
  isIn [(0x622, 0x623), (0x625, 0x625), (0x627, 0x627), (0x671, 0x673), (0x675, 0x675),
    (0x773, 0x774), (0x870, 0x882)] c

/-- A Tifinagh consonant. -/
def isTifinagh (c : Char) : Bool := isIn [(0x2D31, 0x2D65), (0x2D6F, 0x2D6F)] c

/-- A Khmer letter that can stand below another. -/
def isKhmer (c : Char) : Bool :=
  isIn [(0x1780, 0x1782), (0x1784, 0x1787), (0x1789, 0x178C), (0x178E, 0x1793),
    (0x1795, 0x1798), (0x179B, 0x179D), (0x17A0, 0x17A0), (0x17A2, 0x17A2), (0x17A7, 0x17A7),
    (0x17AB, 0x17AC), (0x17AF, 0x17AF)] c

/-- Whether ligatures are formed across the character: a joiner or a selector. -/
def isTransparent (c : Char) : Bool :=
  isIn [(0x34F, 0x34F), (0x17B4, 0x17B5), (0x180B, 0x180D), (0x180F, 0x180F), (0x200D, 0x200D),
    (0xFE00, 0xFE0F), (0xE0100, 0xE01EF)] c

/-! ### Characters before others -/

/-- The columns that a character adds before a letter that forms ligatures, and what it leaves
behind the one before it, if it joins the letter. -/
def attachLetter? (c : Char) (letter : Ligature) (joined : Bool) : Option (Int × Follower) :=
  if letter ≠ .alef && c = joiner then some (0, .ligature letter true)
  else if letter ≠ .alef && isTransparent c then some (0, .ligature letter joined)
  else
    match letter with
    | .alef =>
      if isLam c then some (0, .other)
      else if charWidth c = 0 && !isIn opaqueRanges c then some (0, .ligature .alef joined)
      else none
    | .lamed => if joined && c = '\u05D0' then some (0, .other) else none
    | .ya => if joined && c = '\u1A17' then some (0, .ligature .vowelYa false) else none
    | .vowelYa => if c = '\u1A15' then some (0, .other) else none
    | .tifinagh =>
      if c = '\u2D7F' then some (1, .ligature .joinedTifinagh false)
      else if joined && isTifinagh c then some (0, .other)
      else none
    | .joinedTifinagh => if isTifinagh c then some (-1, .other) else none
    | .lisu => if isIn [(0xA4F8, 0xA4FB)] c then some (0, .other) else none
    | .orkhon => if joined && c = .ofNat 0x10C32 then some (0, .other) else none
    | .khmer => if c = '\u17D2' then some (-1, .other) else none

/-- The columns that a character adds before `follower`, and what it leaves behind the one before
it, if it joins what follows. -/
def attach? (c : Char) : Follower → Option (Int × Follower)
  | .other => none
  | .ligature letter joined => attachLetter? c letter joined
  | .picture => if c = joiner then some (0, .joined) else none
  | .skinTone =>
    if isIn skinRanges c then some (0, .picture)
    else if c = joiner then some (0, .joined)
    else none
  | .flagLetter => if isFlagLetter c then some (1, .flagLetters) else none
  | .flagLetters =>
    if isFlagLetter c then some (1, .flagLetters)
    else if c = joiner then some (0, .joined)
    else none
  | .joined =>
    if c = keycap then some (0, .joinedKeycap)
    else if isFlagLetter c then some (1, .joinedLetter)
    else if isSkinTone c then some (0, .skinTone)
    else if c = lastTag then some (0, .tagLetters 0)
    else if isPicture c then some (0, .picture)
    else none
  | .joinedKeycap => none
  | .joinedLetter => if isFlagLetter c then some (-1, .joinedLetters false) else none
  | .joinedLetters odd =>
    if isFlagLetter c then some (if odd then -1 else 3, .joinedLetters !odd)
    else if c = joiner then some (0, .joined)
    else none
  | .tagLetters count =>
    if count < 6 && isIn [(0xE0061, 0xE007A)] c then some (0, .tagLetters (count + 1))
    else if count < 5 && isIn [(0xE0030, 0xE0039)] c then some (0, .tagDigits 1)
    else if 3 ≤ count && c = blackFlag then some (0, .picture)
    else none
  | .tagDigits count =>
    if count < 3 && isIn [(0xE0030, 0xE0039)] c then some (0, .tagDigits (count + 1))
    else if 3 ≤ count && c = blackFlag then some (0, .picture)
    else none

/-- The columns of a character that joins nothing behind it, and what it is for the one
before it. -/
def standAlone (c : Char) : Int × Follower :=
  (charWidth c,
    if isSkinTone c then .skinTone
    else if isFlagLetter c then .flagLetter
    else if isPicture c then .picture
    else if isAlef c then .ligature .alef false
    else if isTifinagh c then .ligature .tifinagh false
    else if isKhmer c then .ligature .khmer false
    else if c = '\u05DC' then .ligature .lamed false
    else if c = '\u1A10' then .ligature .ya false
    else if isIn [(0xA4FC, 0xA4FD)] c then .ligature .lisu false
    else if c = .ofNat 0x10C03 then .ligature .orkhon false
    else .other)

/-- The columns that a character adds to what stands behind it, and what then stands behind the
character before it. -/
def extend (c : Char) (behind : Behind) : Int × Behind :=
  if behind.asPicture && isSelectable c then
    (if behind.follower.isJoined then 0 else 2, { follower := .picture })
  else
    let behind := behind.refusePicture
    if c.toNat ≤ 0xA0 then (1, {})
    else if c = pictureSelector then (0, behind.askPicture)
    else if c = signSelector then (0, behind.askSign)
    else if behind.asSign && isNarrowing c then (1, {})
    else
      let (columns, follower) := (attach? c behind.follower).getD (standAlone c)
      (columns, { follower })

/-- The columns of a line and what it starts with, read from its end. -/
def measure : List Char → Int × Behind
  | [] => (0, {})
  | c :: rest =>
    let (columns, behind) := measure rest
    let (added, front) := extend c behind
    (columns + added, front)

/-- The columns of a line. -/
def width (line : String) : Nat := (measure line.toList).1.toNat

end InteractiveMobs.Terminal
