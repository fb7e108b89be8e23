/-!
# Templates

A compiled template is a list of segments: literal text, and tokens that each take one
argument. A token may carry a directive, the formatting that its argument alone gets.
-/

namespace InteractiveMobs
set_option autoImplicit false

/-- One piece of a template. -/
inductive Segment where
  /-- Text that stands for itself. -/
  | literal (text : String)
  /-- The place of one argument, with the directive written between its braces; `{}` has none. -/
  | token (directive : Option String)
deriving DecidableEq, Repr, Inhabited

namespace Segment

/-- Whether the segment takes an argument. -/
def isToken : Segment → Bool
  | literal _ => false
  | token _ => true

end Segment

/-- A compiled message. `tokenCount` is the number of arguments a rendering asks for; it is the
number of tokens in what `Template.compile` makes, but a template may also come from elsewhere. -/
structure Template where
  segments : List Segment := []
  tokenCount : Nat := 0
deriving DecidableEq, Repr, Inhabited

namespace Template

/-- What each token carries between its braces, in order. -/
def directives (template : Template) : List (Option String) :=
  template.segments.filterMap fun
    | .literal _ => none
    | .token directive => some directive

/-- The template of a list of segments, which asks for one argument per token. -/
def ofSegments (segments : List Segment) : Template where
  segments := segments
  tokenCount := segments.countP Segment.isToken

end Template
end InteractiveMobs
