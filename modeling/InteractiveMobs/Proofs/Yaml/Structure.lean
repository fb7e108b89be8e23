import InteractiveMobs.Proofs.Yaml.Entries
import InteractiveMobs.Yaml.Document
import Mathlib.Data.List.Forall2

/-!
# Reading entries

The tokens of a mapping (`IsMapping`) are read as one node, whose entries are the texts that the
mapping was written for, with enough steps and whatever follows.
-/

namespace InteractiveMobs.Yaml
set_option autoImplicit false

variable {handles : Handles} {anchors : Anchors} {depth : Nat} {place : Place} {rest : List Token}

theorem readNode_scalar (style : ScalarStyle) (text : String) :
    readNode handles (depth + 1) place anchors (.scalar style text :: rest) =
      .ok (.scalar none none style text, anchors, rest) := rfl

theorem readNode_mapping {entries : List (Node × Node)} {tokens : List Token}
    (read : readEntries handles depth anchors tokens = .ok (entries, anchors, rest))
    (block : place ≠ .flow) :
    readNode handles (depth + 1) place anchors (.blockMappingStart :: tokens) =
      .ok (.mapping none entries, anchors, rest) := by
  rw [readNode]
  · simp [Properties.read, read, block, bind, Except.bind, pure, Except.pure]
  · exact nofun

/-- An entry with a scalar for its key, before further entries. -/
theorem readEntries_entry (keyStyle : ScalarStyle) (key : String) {value : Node}
    {entries : List (Node × Node)} {tokens later : List Token} (given : endsEntry tokens = false)
    (read : readNode handles (depth + 1) .mappingBlock anchors tokens = .ok (value, anchors, later))
    (others : readEntries handles (depth + 2) anchors later = .ok (entries, anchors, rest)) :
    readEntries handles (depth + 3) anchors (.key :: .scalar keyStyle key :: .value :: tokens) =
      .ok ((.scalar none none keyStyle key, value) :: entries, anchors, rest) := by
  have named : endsEntry (.scalar keyStyle key :: .value :: tokens) = false := rfl
  have valued : readValue handles (depth + 2) anchors (.value :: tokens) =
      .ok (value, anchors, later) := by
    rw [readValue, given]
    exact read
  rw [readEntries, named]
  simp only [Bool.false_eq_true, if_false, readNode_scalar, bind, Except.bind, valued, others, pure,
    Except.pure]

/-- The key and the value of an entry are scalars with these texts. -/
def IsEntry (nodes : Node × Node) (entry : String × String) : Prop :=
  (∃ style, nodes.1 = .scalar none none style entry.1) ∧
    ∃ style, nodes.2 = .scalar none none style entry.2

/-- All entries of a mapping, up to its end. -/
theorem IsEntries.read {entries : List (String × String)} {tokens : List Token}
    (are : IsEntries entries tokens) (handles : Handles) (anchors : Anchors) (rest : List Token)
    {depth : Nat} (deep : entries.length + 2 ≤ depth) :
    ∃ nodes, readEntries handles depth anchors (tokens ++ .blockEnd :: rest) =
      .ok (nodes, anchors, rest) ∧ List.Forall₂ IsEntry nodes entries := by
  induction are generalizing depth with
  | nil =>
    obtain ⟨depth, rfl⟩ := Nat.exists_eq_add_of_le' (Nat.le_of_succ_le deep)
    exact ⟨[], rfl, .nil⟩
  | @cons key value _ _ keyStyle valueStyle later ih =>
    rw [List.length_cons] at deep
    obtain ⟨depth, rfl⟩ : ∃ d, depth = d + 3 := ⟨depth - 3, by omega⟩
    have deep' : _ + 2 ≤ depth + 2 := Nat.le_of_succ_le_succ deep
    obtain ⟨nodes, read, hold⟩ := ih deep'
    exact ⟨_, readEntries_entry keyStyle key rfl (readNode_scalar valueStyle value) read,
      .cons ⟨⟨keyStyle, rfl⟩, ⟨valueStyle, rfl⟩⟩ hold⟩

theorem IsEntries.length_eq {entries : List (String × String)} {tokens : List Token}
    (are : IsEntries entries tokens) : tokens.length = 4 * entries.length := by
  induction are with
  | nil => rfl
  | cons keyStyle valueStyle later ih =>
    simp only [List.length_cons, ih]
    omega

/-- The tokens of a mapping below the root. One without entries is written in braces. -/
inductive IsMapping : List (String × String) → List Token → Prop where
  | braces : IsMapping [] [.flowMappingStart, .flowMappingEnd]
  | block {entries : List (String × String)} {tokens : List Token}
    (are : IsEntries entries tokens) :
    IsMapping entries (.blockMappingStart :: (tokens ++ [.blockEnd]))

/-- The node of a mapping below the root. -/
theorem IsMapping.read {entries : List (String × String)} {tokens : List Token}
    (is : IsMapping entries tokens) (handles : Handles) (anchors : Anchors) (rest : List Token)
    {depth : Nat} (deep : tokens.length + 2 ≤ depth) :
    endsEntry (tokens ++ rest) = false ∧
      ∃ nodes, readNode handles depth .mappingBlock anchors (tokens ++ rest) =
        .ok (.mapping none nodes, anchors, rest) ∧ List.Forall₂ IsEntry nodes entries := by
  obtain ⟨depth, rfl⟩ : ∃ d, depth = d + 2 := ⟨depth - 2, by omega⟩
  cases is with
  | braces => exact ⟨rfl, [], rfl, .nil⟩
  | @block _ tokens are =>
    have length := are.length_eq
    simp only [List.length_cons, List.length_append] at deep
    have deep' : entries.length + 2 ≤ depth + 1 := by omega
    obtain ⟨nodes, read, hold⟩ := are.read handles anchors rest deep'
    have front : .blockMappingStart :: (tokens ++ [.blockEnd]) ++ rest =
        .blockMappingStart :: (tokens ++ .blockEnd :: rest) := by simp
    rw [front]
    exact ⟨rfl, nodes, readNode_mapping read (by decide), hold⟩

/-- The document of tokens that are one node. -/
theorem Document.readRoot_eq {tokens : List Token} {root : Node} {steps : Nat}
    (read : readNode Document.commonHandles steps .block ∅ tokens = .ok (root, anchors, []))
    (count : 4 * tokens.length + 4 = steps) :
    Document.readRoot [] tokens = .ok (.ofRoot root) := by
  subst count
  rw [Document.readRoot]
  simp only [List.nil_append, read, bind, Except.bind]
  rfl

end InteractiveMobs.Yaml
