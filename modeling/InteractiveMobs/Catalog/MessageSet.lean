import InteractiveMobs.Catalog.Config
import InteractiveMobs.Log
import InteractiveMobs.Template.Compile
import InteractiveMobs.Template.Render

/-!
# Message sets

A message set is a catalog document with every template compiled. It is made whole and never
changed: a reload puts another set in its place.
-/

namespace InteractiveMobs
set_option autoImplicit false

/-- The compiled messages of one document. -/
structure MessageSet where
  templates : Table MessageKey Template := ∅

namespace MessageSet

/-- Every message of the document, compiled. -/
def ofConfig (config : Config) : MessageSet where
  templates := config.messages.mapValues fun _ raw => .compile raw

/-- The template under `key`. -/
def get? (messages : MessageSet) (key : MessageKey) : Option Template := messages.templates.get? key

/-- The keys in order, which is how the table keeps them. -/
def keys (messages : MessageSet) : List MessageKey := messages.templates.keys

/-- The number of messages. -/
def size (messages : MessageSet) : Nat := messages.templates.size

/-- The message under `key` with its arguments in place. -/
def render (messages : MessageSet) (key : MessageKey) (args : List String) :
    Except MessageError String :=
  match messages.get? key with
  | none => .error (.unknownKey key)
  | some template => template.render args

/-- What asking for the message under `key` leaves in the log. -/
def renderEvents (messages : MessageSet) (key : MessageKey) : List Log.Event :=
  match messages.get? key with
  | none => [Log.warn .messages "unknown message key" [("key", key.text)]]
  | some _ => []

/-- What putting the set in force leaves in the log. -/
def reloadEvent (messages : MessageSet) : Log.Event where
  area := .messages
  level := .info
  message := "message catalog reloaded"
  fields := [("messages", .count messages.size)]

end MessageSet
end InteractiveMobs
