import InteractiveMobs.Catalog.Config
import InteractiveMobs.Yaml.Document
import InteractiveMobs.Yaml.Meaning

/-!
# Reading catalog documents

A catalog document is a mapping with a `version` and a mapping of `messages`. Both may be
missing, other fields are ignored, and every key and template is taken by its text. The document
is what `Yaml.Document.read` makes of the text. That the YAML library in use makes the same of it is
an assumption here.
-/

namespace InteractiveMobs
set_option autoImplicit false

namespace Config
open Yaml

/-- The entries of a mapping; where nothing is written there are none. -/
def entriesOf (document : Document) (node : Node) : Except Yaml.Error (List (Node × Node)) :=
  match document.resolve node with
  | .mapping _ entries => .ok entries
  | .scalar _ _ .plain "" => .ok []
  | _ => .error .mappingExpected

/-- The text of a scalar, however it is written. -/
def textOf (document : Document) (node : Node) : Except Yaml.Error String :=
  match document.resolve node with
  | .scalar _ _ _ text => .ok text
  | _ => .error .scalarExpected

/-- The tag of whole numbers. -/
def integerTag : String := "tag:yaml.org,2002:int"

/-- The version that a scalar gives: a whole number without quotes, or a literal text tagged as
one. -/
def versionOf (document : Document) (node : Node) : Except Yaml.Error UInt32 := do
  let text ← match document.resolve node with
    | .scalar _ _ .plain text => .ok text
    | .scalar _ (some tag) .literal text =>
      if tag = integerTag then .ok text else .error .scalarExpected
    | _ => .error .scalarExpected
  match natural? text.toList with
  | some n => if n < UInt32.size then return .ofNat n else throw (.badVersion text)
  | none => throw (.badVersion text)

/-- The messages of a mapping; of two under one key the later one counts. -/
def messagesOf (document : Document) (node : Node) :
    Except Yaml.Error (Table MessageKey String) := do
  let entries ← entriesOf document node
  let texts ← entries.mapM fun e => do
    return ((⟨← textOf document e.1⟩ : MessageKey), ← textOf document e.2)
  return .ofList texts

/-- The fields of a catalog as far as they were met. -/
structure Fields where
  version : Option UInt32 := none
  messages : Option (Table MessageKey String) := none

/-- Takes one more field of a catalog. -/
def Fields.take (document : Document) (fields : Fields) (entry : Node × Node) :
    Except Yaml.Error Fields := do
  match ← textOf document entry.1 with
  | "version" =>
    if fields.version.isSome then throw (.repeatedField "version")
    return { fields with version := some (← versionOf document entry.2) }
  | "messages" =>
    if fields.messages.isSome then throw (.repeatedField "messages")
    return { fields with messages := some (← messagesOf document entry.2) }
  | _ => return fields

/-- The catalog a document holds. -/
def ofDocument (document : Document) : Except Yaml.Error Config := do
  let entries ← entriesOf document document.root
  let fields ← entries.foldlM (Fields.take document) {}
  return { version := fields.version.getD 1, messages := fields.messages.getD ∅ }

/-- Reads a catalog document, as the YAML library is assumed to read it. A text that holds none is
the empty catalog. -/
def read (text : String) : Except Yaml.Error Config := do
  match ← Document.read text with
  | some document => ofDocument document
  | none => return {}

end Config
end InteractiveMobs
