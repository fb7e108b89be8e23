import InteractiveMobs.CharClasses

/-!
# Flags of a pattern

A pattern may say how its parts are read: without regard to case, byte by byte, or with white
space and comments between them that mean nothing.
-/

namespace InteractiveMobs.Pattern
set_option autoImplicit false

/-- How a part of a pattern is read. -/
structure Flags where
  caseless : Bool := false
  /-- Whether it is about characters, not about bytes. -/
  unicode : Bool := true
  /-- Whether white space and comments are left out. -/
  spaced : Bool := false
deriving DecidableEq, Repr

namespace Flags

/-- Turns the flag of a letter on or off, if there is one. Flags about lines and about greed make
no difference to whether a pattern is one. -/
def set? (flags : Flags) (letter : Char) (on : Bool) : Option Flags :=
  match letter with
  | 'i' => some { flags with caseless := on }
  | 'u' => some { flags with unicode := on }
  | 'x' => some { flags with spaced := on }
  | 'm' | 's' | 'U' | 'R' => some flags
  | _ => none

/-- Letters of flags up to a colon or a parenthesis, given those already seen, newest first: the
flags then, all the letters, and the text from the colon or parenthesis on. A hyphen turns what
follows off; nothing may come twice. -/
def read? (flags : Flags) (on : Bool) (seen : List Char) :
    List Char → Option (Flags × List Char × List Char)
  | [] => none
  | c :: rest =>
    if c = ':' || c = ')' then
      if seen.head? = some '-' then none else some (flags, seen, c :: rest)
    else if seen.contains c then none
    else if c = '-' then read? flags false (c :: seen) rest
    else (flags.set? c on).bind fun flags => read? flags on (c :: seen) rest

/-- The text behind white space and comments, which end with their line. -/
def skipSpacing (inComment : Bool) : List Char → List Char
  | [] => []
  | c :: rest =>
    if inComment then skipSpacing (c ≠ '\n') rest
    else if isWhiteSpace c then skipSpacing false rest
    else if c = '#' then skipSpacing true rest
    else c :: rest

/-- The text behind what is left out in front of it. -/
def skip (flags : Flags) (text : List Char) : List Char :=
  if flags.spaced then skipSpacing false text else text

/-- Whether characters may stand for themselves. Characters without regard to case may not: which
ones are equal then is not known here. -/
def allowsChars (flags : Flags) : Bool := !(flags.unicode && flags.caseless)

end Flags
end InteractiveMobs.Pattern
