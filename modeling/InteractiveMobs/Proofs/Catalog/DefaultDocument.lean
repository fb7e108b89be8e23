import InteractiveMobs.Catalog.Defaults
import InteractiveMobs.Proofs.Catalog.Lossless

/-!
# The document of the defaults

The defaults are written out in a layout of their own, with every message between double quotes.
No message needs an escape there (`Defaults.isQuotable_of_mem`), so each line stands for its entry,
and the document is read as the default catalog (`Defaults.read_document`).
-/

namespace InteractiveMobs
set_option autoImplicit false
open Yaml Yaml.Writing Yaml.Lexer

/-- A document with the fields of a catalog is read as that catalog. -/
theorem Config.read_of_document {text : String} {version : UInt32} {nodes : List (Node × Node)}
    {entries : List (String × String)} (hold : List.Forall₂ IsEntry nodes entries)
    (document : Document.read text =
      .ok (some (.ofRoot (.mapping none (fieldsOf version nodes))))) :
    read text = .ok ⟨version, .ofList (entries.map fun e => (⟨e.1⟩, e.2))⟩ := by
  have messages := messagesOf_eq (.ofRoot (.mapping none (fieldsOf version nodes))) hold
  have fields := take_fieldsOf _ version messages
  have listed : entriesOf (.ofRoot (.mapping none (fieldsOf version nodes)))
      (Document.ofRoot (.mapping none (fieldsOf version nodes))).root =
        .ok (fieldsOf version nodes) := rfl
  simp only [read, document, ofDocument, listed, fields, bind, Except.bind, pure, Except.pure,
    Option.getD_some]

namespace Defaults

/-- The key can stand without quotes, and the template between double quotes without escapes. -/
def IsQuotable (key template : List Char) : Prop :=
  plainAllowed key = true ∧ String.utf8Len key ≤ PossibleKey.maxLength ∧
    ∀ c ∈ template, doubleChar c = [c]

-- Decided along the template, and not over all characters.
instance (key template : List Char) : Decidable (IsQuotable key template) :=
  decidable_of_iff (plainAllowed key = true ∧ String.utf8Len key ≤ PossibleKey.maxLength ∧
    template.all (fun c => doubleChar c = [c]) = true) (by simp [IsQuotable])

theorem isQuotable_of_mem : ∀ e ∈ entries, IsQuotable e.1.toList e.2.toList := by
  simp only [entries, List.forall_mem_cons, String.reduceToList]
  decide +kernel

/-- The line of an entry, without its margin. -/
def line (entry : String × String) : List Char :=
  entry.1.toList ++ ':' :: ' ' :: endLine (double entry.2.toList)

theorem entryForms_lines : EntryForms entries (entries.map line) := by
  refine List.forall₂_map_right_iff.2 (List.forall₂_same.2 fun e mem => ?_)
  obtain ⟨allowed, near, -⟩ := isQuotable_of_mem e mem
  exact .beside (.plain allowed) .double (Plain.isText_of_plainAllowed allowed).unbroken near

theorem toList_line {entry : String × String} (mem : entry ∈ entries) :
    ("  " ++ entry.1 ++ ": \"" ++ entry.2 ++ "\"\n").toList = margin 2 ++ line entry := by
  obtain ⟨-, -, plain⟩ := isQuotable_of_mem entry mem
  have unescaped : double entry.2.toList = '"' :: entry.2.toList ++ ['"'] := by
    rw [double, List.flatMap_congr plain, List.flatMap_singleton']
  have ends : endLine (double entry.2.toList) = double entry.2.toList ++ ['\n'] := by
    apply Form.endLine_eq .double
    intro literal
    cases literal
  rw [line, ends, unescaped]
  simp [margin]

/-- What stands behind the colon of the messages. -/
def lines : List Char := '\n' :: (entries.map line).flatMap (margin 2 ++ ·)

theorem toList_document : document.toList = Config.documentText 1 lines := by
  have digit : Nat.toDigits 10 1 = ['1'] := rfl
  have header (body : List Char) : "version: 1\nmessages:\n".toList ++ body =
      Config.documentText 1 ('\n' :: body) := by
    unfold Config.documentText
    simp [digit]
  have body : (String.join (entries.map fun e => "  " ++ e.1 ++ ": \"" ++ e.2 ++ "\"\n")).toList =
      (entries.map line).flatMap (margin 2 ++ ·) := by
    rw [String.toList_join, List.flatMap_map, List.flatMap_map]
    exact List.flatMap_congr fun e mem => toList_line mem
  exact String.toList_append.trans ((congrArg _ body).trans (header _))

/-- The document that the defaults are written out as is read as the defaults. -/
theorem read_document : Config.read document = .ok config := by
  have shown : ∀ c ∈ lines, isPrintable c = true :=
    List.forall_mem_cons.2 ⟨rfl, entryForms_lines.isPrintable⟩
  have whole : document.toList = Config.documentText (1 : UInt32).toNat lines := toList_document
  obtain ⟨nodes, hold, read⟩ := Config.document_documentText whole shown rfl
    (Config.isMessages_lines entryForms_lines)
  exact Config.read_of_document hold read

end Defaults
end InteractiveMobs
