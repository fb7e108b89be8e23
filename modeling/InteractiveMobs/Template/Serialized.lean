import InteractiveMobs.Json
import InteractiveMobs.Template

/-!
# The serialized form of a template

A segment is an object with its kind and its value, a template an object with its segments and
its token count. Reading takes the fields in any order and ignores others, or takes the list of
the fields' values in their order. A token may leave its value out.
-/

namespace InteractiveMobs
set_option autoImplicit false

namespace Segment

/-- The serialized segment. -/
def toJson : Segment → Json
  | .literal text => .object [("kind", .text "literal"), ("value", .text text)]
  | .token none => .object [("kind", .text "token"), ("value", .null)]
  | .token (some directive) => .object [("kind", .text "token"), ("value", .text directive)]

/-- The segment of a kind with the given value. -/
def ofParts? (kind : Json) (value : Option Json) : Option Segment :=
  match kind, value with
  | .text "literal", some (.text text) => some (.literal text)
  | .text "token", none => some (.token none)
  | .text "token", some .null => some (.token none)
  | .text "token", some (.text directive) => some (.token (some directive))
  | _, _ => none

/-- The kind that a field gives: its text, or the only name in it, with nothing under it. -/
def kindOf : Json → Json
  | .object [(name, .null)] => .text name
  | kind => kind

/-- The segment a JSON value stands for. -/
def ofJson? : Json → Option Segment
  | .object fields =>
    match Json.occurrence "kind" fields, Json.occurrence "value" fields with
    | .once kind, .once value => ofParts? (kindOf kind) (some value)
    | .once kind, .absent => ofParts? (kindOf kind) none
    | _, _ => none
  | .list [kind, value] => ofParts? kind (some value)
  | _ => none

end Segment

namespace Template

/-- The serialized template. -/
def toJson (template : Template) : Json :=
  .object [("segments", .list (template.segments.map Segment.toJson)),
    ("token_count", .integer template.tokenCount)]

/-- The least number too large for a token count. -/
def countLimit : Nat := UInt64.size

/-- The template of serialized segments and a serialized count. -/
def ofParts? (segments count : Json) : Option Template :=
  match segments, count with
  | .list items, .integer (.ofNat n) =>
    if n < countLimit then (items.mapM Segment.ofJson?).map fun segments => ⟨segments, n⟩ else none
  | _, _ => none

/-- The template a JSON value stands for. -/
def ofJson? : Json → Option Template
  | .object fields =>
    match Json.occurrence "segments" fields, Json.occurrence "token_count" fields with
    | .once segments, .once count => ofParts? segments count
    | _, _ => none
  | .list [segments, count] => ofParts? segments count
  | _ => none

end Template
end InteractiveMobs
