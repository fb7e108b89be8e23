import InteractiveMobs.Log.Directive
import InteractiveMobs.Pattern.Reading

/-!
# Items of a log setting

How a directive is written. The name of a verbosity holds for all events. Else a name stands for
the areas that start with it, and brackets behind it or alone hold a scope, or a field in braces;
the verbosity stands behind an equals sign. Places in an item count from its first visible
character, while the text at a place is taken from the item as it was given, so that blanks in
front of an item make it name something else.
-/

namespace InteractiveMobs.Log
set_option autoImplicit false

/-- Where a part of an item stands: the bytes before it, and before its end. -/
structure Span where
  start : Nat
  stop : Nat
deriving DecidableEq, Repr

/-- Which parts an item has. -/
inductive Layout where
  /-- A word alone: a verbosity or an area. -/
  | word
  /-- The place of each part, and the bytes before a verbosity. -/
  | parts (area? scope? field? : Option Span) (level? : Option Nat)
deriving DecidableEq, Repr

/-- The bytes of a text. -/
def byteCount (text : List Char) : Nat := text.foldl (fun n c => n + c.utf8Size) 0

/-- The text behind so many bytes, if a character starts there. -/
def dropBytes? : Nat → List Char → Option (List Char)
  | 0, text => some text
  | _ + 1, [] => none
  | n + 1, c :: rest => if c.utf8Size ≤ n + 1 then dropBytes? (n + 1 - c.utf8Size) rest else none

/-- The first bytes of a text, if a character ends there. -/
def takeBytes? : Nat → List Char → Option (List Char)
  | 0, _ => some []
  | _ + 1, [] => none
  | n + 1, c :: rest =>
    if c.utf8Size ≤ n + 1 then (takeBytes? (n + 1 - c.utf8Size) rest).map (c :: ·) else none

/-- The text of a span. -/
def Span.text? (place : Span) (item : List Char) : Option (List Char) :=
  (dropBytes? place.start item).bind (takeBytes? (place.stop - place.start))

namespace Layout

/-- The bytes before a verbosity, if the text behind the other parts has one. -/
def readLevel? (start : Nat) : List Char → Option (Option Nat)
  | [] => some none
  | '=' :: _ => some (some (start + 1))
  | _ => none

/-- The layout of an item from inside its bracket on, `start` bytes from its own start. -/
def readBracket? (area? : Option Span) (start : Nat) (text : List Char) : Option Layout := do
  let scope := text.takeWhile fun c => c ≠ ']' && c ≠ '{'
  let stop := start + byteCount scope
  match text.drop scope.length with
  | ']' :: rest => return parts area? (some ⟨start, stop⟩) none (← readLevel? (stop + 1) rest)
  | _ :: rest =>
    let field := rest.takeWhile (· ≠ '}')
    let fieldStop := stop + 1 + byteCount field
    match rest.drop field.length with
    | '}' :: ']' :: rest =>
      let level? ← readLevel? (fieldStop + 2) rest
      let scope? := if scope.isEmpty then none else some ⟨start, stop⟩
      if field.isEmpty then none
      else return parts area? scope? (some ⟨stop + 1, fieldStop⟩) level?
    | _ => none
  | [] => none

/-- Whether a name may start with a character. -/
def startsName (c : Char) : Bool := c = '-' || c = ':' || c = '_' || isAlphanumeric c

/-- The layout of an item without blanks around it. -/
def read? : List Char → Option Layout
  | [] => none
  | '[' :: rest => readBracket? none 1 rest
  | first :: rest =>
    if startsName first then
      let name := first :: rest.takeWhile fun c => c ≠ '=' && c ≠ '['
      let stop := byteCount name
      match rest.dropWhile fun c => c ≠ '=' && c ≠ '[' with
      | [] => some word
      | '[' :: rest => readBracket? (some ⟨0, stop⟩) (stop + 1) rest
      | _ :: _ => some (parts (some ⟨0, stop⟩) none none (some (stop + 1)))
    else none

end Layout

/-! ### Values of fields -/

/-- Whether digits follow an exponent sign, or nothing at all. -/
def isExponent : List Char → Bool
  | [] => true
  | c :: rest =>
    let digits := if rest.head? = some '+' || rest.head? = some '-' then rest.drop 1 else rest
    (c = 'e' || c = 'E') && !digits.isEmpty && digits.all Char.isDigit

/-- Whether a text is a number without a sign. -/
def isUnsigned (text : List Char) : Bool :=
  let whole := text.takeWhile Char.isDigit
  match text.drop whole.length with
  | '.' :: rest =>
    let fraction := rest.takeWhile Char.isDigit
    !(whole.isEmpty && fraction.isEmpty) && isExponent (rest.drop fraction.length)
  | rest => !whole.isEmpty && isExponent rest

/-- Whether a text is a number, perhaps not a finite one. -/
def isNumber (text : List Char) : Bool :=
  let unsigned := if text.head? = some '+' || text.head? = some '-' then text.drop 1 else text
  let name := String.ofList (unsigned.map Char.toLower)
  name = "inf" || name = "infinity" || name = "nan" || isUnsigned unsigned

/-- Whether a text tells which values a field should have: a number or a pattern. -/
def isValueTest (text : List Char) : Bool := isNumber text || Pattern.isValid text

/-- A text without the white space at its ends. -/
def trimmed (text : List Char) : List Char :=
  ((text.dropWhile isWhiteSpace).reverse.dropWhile isWhiteSpace).reverse

namespace Directive

/-- The name of a field, and whether its value is tested, behind an equals sign. -/
def readField? (text : List Char) : Option (List Char × Bool) :=
  let name := text.takeWhile (· ≠ '=')
  match text.drop name.length with
  | [] => some (name, false)
  | _ :: value => if isValueTest (value.takeWhile (· ≠ '=')) then some (name, true) else none

/-- The verbosity at the end of an item; everything is shown if it is left out. -/
def readVerbosity? (item : List Char) : Option Nat → Option Verbosity
  | none => some .trace
  | some start => do
    let level ← dropBytes? start item
    if level.isEmpty then some .trace else Verbosity.of? level

/-- The directive of an item. -/
def ofItem? (item : List Char) : Option Directive := do
  match ← Layout.read? (trimmed item) with
  | .word =>
    match Verbosity.of? item with
    | some verbosity => return { verbosity }
    | none => return { subject := { area? := some item } }
  | .parts area? scope? field? level? =>
    let area? ← area?.mapM (·.text? item)
    let field? ← field?.mapM fun place => (place.text? item).bind readField?
    let ofScope := scope?.isSome || field?.any (·.2)
    return {
      subject := { area?, field? := field?.map (·.1), ofScope }
      verbosity := ← readVerbosity? item level? }

end Directive
end InteractiveMobs.Log
