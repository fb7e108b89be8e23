import InteractiveMobs.Catalog.Config
import InteractiveMobs.Yaml.Writing

/-!
# Writing catalog documents

The version on one line, then the messages in the order of their keys, each as an entry of the
mapping below. This is the form of the YAML library that catalogs are written with. That it writes
this form, and no other, is an assumption here.
-/

namespace InteractiveMobs.Config
set_option autoImplicit false

/-- The messages of a catalog document. -/
def writeMessages (messages : Table MessageKey String) : List Char :=
  if messages.isEmpty then "messages: \x7b\x7d\n".toList
  else "messages:\n".toList ++
    messages.entries.flatMap fun e => Yaml.Writing.entry e.1.text e.2

/-- The catalog as a document, as the YAML library is assumed to write it. -/
def write (config : Config) : String :=
  String.ofList ("version: ".toList ++ (toString config.version.toNat).toList ++
    '\n' :: writeMessages config.messages)

end InteractiveMobs.Config
