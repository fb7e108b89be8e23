/-!
# What stands behind a character

A character may share its columns with those behind it: a letter with the next one in a
ligature, a picture with a skin tone, a flag with its second letter. So a line is read from its
end, and what was read last is kept as far as the character before it can belong to it.
-/

namespace InteractiveMobs.Terminal
set_option autoImplicit false

/-- A letter that forms a ligature with one before it. -/
inductive Ligature where
  /-- An Arabic alef, behind a lam. -/
  | alef
  /-- A Hebrew lamed, behind a joiner and an alef. -/
  | lamed
  /-- A Buginese ya, behind a joiner and the vowel sign i. -/
  | ya
  /-- The vowel sign i with its ya, behind the letter a. -/
  | vowelYa
  /-- A Tifinagh consonant, behind another and a joiner of either kind. -/
  | tifinagh
  /-- A Tifinagh consonant with the joiner of its own script. -/
  | joinedTifinagh
  /-- A Lisu tone of the second kind, behind one of the first. -/
  | lisu
  /-- An Old Turkic i, behind a joiner and a c. -/
  | orkhon
  /-- A Khmer letter that can stand below another. -/
  | khmer
deriving DecidableEq, Repr

/-- The start of what stands behind a character. -/
inductive Follower where
  /-- Nothing that joins. -/
  | other
  | ligature (letter : Ligature) (joined : Bool)
  | picture
  | skinTone
  /-- A letter of a flag. -/
  | flagLetter
  /-- Several letters of flags. -/
  | flagLetters
  /-- A joiner and a picture. -/
  | joined
  /-- The mark of a keycap, a joiner and a picture. -/
  | joinedKeycap
  /-- A letter of a flag, a joiner and a picture. -/
  | joinedLetter
  /-- Several letters of flags, a joiner and a picture. -/
  | joinedLetters (odd : Bool)
  /-- So many letters of the tags of a flag, and the end of the tags. -/
  | tagLetters (count : Nat)
  /-- So many digits of the tags of a flag, perhaps with letters behind, and the end of the
  tags. -/
  | tagDigits (count : Nat)
deriving DecidableEq, Repr

namespace Follower

/-- Whether another joined picture in front would take no more columns. -/
def isJoined : Follower → Bool
  | joined | joinedKeycap => true
  | _ => false

/-- Whether selectors leave in place what stands behind them. -/
def isLigature : Follower → Bool
  | ligature _ _ => true
  | _ => false

end Follower

/-- What stands behind a character: selectors and what follows them. -/
structure Behind where
  follower : Follower := .other
  /-- Whether the character is asked to be a picture. -/
  asPicture : Bool := false
  /-- Whether the character is asked to be a sign. -/
  asSign : Bool := false
deriving DecidableEq, Repr

namespace Behind

/-- With the selector for a picture in front. -/
def askPicture (behind : Behind) : Behind :=
  if behind.follower.isLigature || behind.follower.isJoined then { behind with asPicture := true }
  else { asPicture := true }

/-- With the selector for a sign in front. -/
def askSign (behind : Behind) : Behind :=
  if behind.follower.isLigature then { behind with asSign := true } else { asSign := true }

/-- Without the selector for a picture, before a character that cannot be one. -/
def refusePicture (behind : Behind) : Behind :=
  if !behind.asPicture then behind
  else if behind.follower.isLigature then { behind with asPicture := false }
  else {}

end Behind
end InteractiveMobs.Terminal
