import InteractiveMobs.Names
import InteractiveMobs.Table

/-!
# Catalog documents

A catalog document gives each message its template text, not yet compiled. One document may be
laid over another: its own messages count, and the other fills in the rest.
-/

namespace InteractiveMobs
set_option autoImplicit false

/-- The content of a catalog document. -/
structure Config where
  version : UInt32 := 1
  messages : Table MessageKey String := ∅

namespace Config

instance : Inhabited Config := ⟨{}⟩

/-- The template text under `key`. -/
def get? (config : Config) (key : MessageKey) : Option String := config.messages.get? key

/-- `config` with the messages it lacks taken from `base`. -/
def layeredOver (config base : Config) : Config :=
  { config with messages := config.messages.overlay base.messages }

/-- A document of version 1 with the given messages. -/
def ofEntries (entries : List (String × String)) : Config where
  messages := .ofList (entries.map fun e => (⟨e.1⟩, e.2))

theorem get?_layeredOver (upper lower : Config) (key : MessageKey) :
    (upper.layeredOver lower).get? key = (upper.get? key).or (lower.get? key) := Table.get?_overlay

/-- Documents of one version with the same messages are equal. -/
theorem ext_get? {a b : Config} (version : a.version = b.version)
    (messages : ∀ key, a.get? key = b.get? key) : a = b := by
  have tables : a.messages = b.messages := Table.ext_get? messages
  cases a
  cases b
  congr

/-- A document laid over itself is itself. -/
theorem layeredOver_self (config : Config) : config.layeredOver config = config :=
  ext_get? rfl fun key => by rw [get?_layeredOver, Option.or_self]

theorem layeredOver_assoc (a b c : Config) :
    (a.layeredOver b).layeredOver c = a.layeredOver (b.layeredOver c) :=
  ext_get? rfl fun key => by simp only [get?_layeredOver, Option.or_assoc]

end Config
end InteractiveMobs
