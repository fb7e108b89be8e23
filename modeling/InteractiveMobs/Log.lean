/-!
# Log events

What an operation has to tell an administrator: the area it belongs to, a level, a fixed sentence,
and named values.
-/

namespace InteractiveMobs.Log
set_option autoImplicit false

/-- The part of the program that an event comes from. -/
inductive Area where
  | actions
  | messages
  | catalogFiles
  | templates
deriving DecidableEq, Repr

/-- The name of an area in settings. -/
def Area.name : Area → String
  | actions => "portal_actions::dispatch"
  | messages => "portal_message::catalog"
  | catalogFiles => "portal_core::catalog"
  | templates => "mobportals::commands::render"

/-- How much an event matters. -/
inductive Level where
  | debug
  | info
  | warn
deriving DecidableEq, Repr

/-- The value of a field: a text as displayed, or a count. -/
inductive Value where
  | text (text : String)
  | count (n : Nat)
deriving DecidableEq, Repr

/-- One event, with its fields in order. -/
structure Event where
  area : Area
  level : Level
  message : String
  fields : List (String × Value) := []
deriving DecidableEq, Repr

/-- Whether the event has a field of the given name; its sentence counts as one. -/
def Event.hasField (event : Event) (name : String) : Bool :=
  name = "message" || event.fields.any (·.1 = name)

/-- A debug event whose fields are texts. -/
def debug (area : Area) (message : String) (fields : List (String × String) := []) : Event where
  area := area
  level := .debug
  message := message
  fields := fields.map fun f => (f.1, .text f.2)

/-- A warning whose fields are texts. -/
def warn (area : Area) (message : String) (fields : List (String × String)) : Event where
  area := area
  level := .warn
  message := message
  fields := fields.map fun f => (f.1, .text f.2)

end InteractiveMobs.Log
