import InteractiveMobs.Log.Verbosity

/-!
# Directives

A directive says up to which level some events are shown: all events, those of areas whose names
start in some way, or those that have a field.
-/

namespace InteractiveMobs.Log
set_option autoImplicit false

/-- The events of a directive: what their area starts with, and a field they have. -/
structure Subject where
  area? : Option (List Char) := none
  field? : Option (List Char) := none
  /-- Whether it asks for the scope in which events happen, or for the value of a field there.
  Events happen in no scope here. -/
  ofScope : Bool := false
deriving DecidableEq, Repr

namespace Subject

/-- Whether the subject takes an event in. -/
def includes (subject : Subject) (event : Event) : Bool :=
  !subject.ofScope && subject.area?.all (·.isPrefixOf event.area.name.toList) &&
    subject.field?.all fun field => event.hasField (String.ofList field)

/-- Whether one subject is closer to the events that both take in: the longer start of an area
is, then a field, of two fields the one with the later name. -/
def isCloser (a b : Subject) : Bool :=
  let length (subject : Subject) := (subject.area?.getD []).length
  length b < length a || (length b = length a &&
    match a.field?, b.field? with
    | some x, some y => String.ofList y < String.ofList x
    | some _, none => true
    | none, _ => false)

end Subject

/-- What a setting says about some events. -/
structure Directive where
  subject : Subject := {}
  verbosity : Verbosity := .trace
deriving DecidableEq, Repr

end InteractiveMobs.Log
