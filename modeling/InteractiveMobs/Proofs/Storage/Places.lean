import InteractiveMobs.Storage.FileTree
import Mathlib.Data.List.Infix

/-!
# Places in a file tree

An operation changes one place, or it makes a directory where nothing was. Nothing else changes
then, and what is at a place keeps its `Shape`, which is all that ways depend on.
-/

namespace InteractiveMobs
set_option autoImplicit false

/-- What ways depend on: whether something may be entered, and where it leads. -/
inductive Shape where
  | directory
  | link (target : Path)
  /-- A file, or nothing. -/
  | closed

namespace Entry

/-- What ways depend on. -/
def shape : Option Entry → Shape
  | some (.directory _) => .directory
  | some (.link target) => .link target
  | some (.file _ _) | some (.name _) | none => .closed

/-- Whether there is a symbolic link. -/
def isSymbolicLink : Option Entry → Bool
  | some (.link _) => true
  | some (.file _ _) | some (.directory _) | some (.name _) | none => false

theorem isDirectory_iff {entry : Option Entry} :
    isDirectory entry = true ↔ shape entry = .directory := by
  rcases entry with _ | _ | _ | _ | _ <;> simp [isDirectory, shape]

theorem isDirectory_congr {entry other : Option Entry} (same : shape entry = shape other) :
    isDirectory entry = isDirectory other := by
  rw [Bool.eq_iff_iff, isDirectory_iff, isDirectory_iff, same]

theorem eq_link_of_shape {entry : Option Entry} {target : Path} (h : shape entry = .link target) :
    entry = some (.link target) := by
  rcases entry with _ | _ | _ | _ | _ <;> simp_all [shape]

theorem isSymbolicLink_congr {entry other : Option Entry} (same : shape entry = shape other) :
    isSymbolicLink entry = isSymbolicLink other := by
  rcases entry with _ | _ | _ | _ | _ <;> rcases other with _ | _ | _ | _ | _ <;>
    simp_all [shape, isSymbolicLink]

/-- What is no directory and no symbolic link is a file, or nothing. -/
theorem shape_eq_closed_iff {entry : Option Entry} :
    shape entry = .closed ↔ isDirectory entry = false ∧ isSymbolicLink entry = false := by
  rcases entry with _ | _ | _ | _ | _ <;> simp [isDirectory, isSymbolicLink, shape]

/-- A directory is no link. -/
theorem isSymbolicLink_of_isDirectory {entry : Option Entry} (there : isDirectory entry = true) :
    isSymbolicLink entry = false := by
  rcases entry with _ | _ | _ | _ | _ <;> simp_all [isDirectory, isSymbolicLink]

/-- A link is no directory. -/
theorem isDirectory_of_isSymbolicLink {entry : Option Entry} (link : isSymbolicLink entry = true) :
    isDirectory entry = false := by
  rcases entry with _ | _ | _ | _ | _ <;> simp_all [isDirectory, isSymbolicLink]

end Entry

namespace FileTree

variable {tree : FileTree} {place other : Place}

theorem link?_eq_some_iff {target : Path} :
    tree.link? place = some target ↔ Entry.shape (tree.find? place) = .link target := by
  unfold link?
  rcases tree.find? place with _ | _ | _ | _ | _ <;> simp [Entry.shape]

theorem link?_congr {after : FileTree}
    (same : Entry.shape (after.find? place) = Entry.shape (tree.find? place)) :
    after.link? place = tree.link? place := by
  ext target
  rw [link?_eq_some_iff, link?_eq_some_iff, same]

theorem link?_eq_none_iff :
    tree.link? place = none ↔ Entry.isSymbolicLink (tree.find? place) = false := by
  unfold link?
  rcases tree.find? place with _ | _ | _ | _ | _ <;> simp [Entry.isSymbolicLink]

theorem link?_of_isDirectory (there : Entry.isDirectory (tree.find? place) = true) :
    tree.link? place = none :=
  link?_eq_none_iff.2 (Entry.isSymbolicLink_of_isDirectory there)

theorem link?_of_absent (absent : tree.find? place = none) : tree.link? place = none := by
  rw [link?, absent]

theorem find?_cons (tree : FileTree) (name : String) (parent : Place) :
    tree.find? (name :: parent) =
      if Entry.isDirectory (tree.find? parent) then tree.entry? (name :: parent) else none := by
  rw [find?]
  rcases tree.find? parent with _ | _ | _ | _ | _ <;> rfl

/-- Only below a directory is there anything. -/
theorem isDirectory_of_find?_cons {name : String} {parent : Place}
    (h : tree.find? (name :: parent) ≠ none) : Entry.isDirectory (tree.find? parent) = true := by
  rw [find?_cons] at h
  by_contra absent
  exact h (if_neg absent)

theorem find?_append_eq_none (absent : tree.find? place = none) (below : Place) :
    tree.find? (below ++ place) = none := by
  induction below with
  | nil => exact absent
  | cons name below ih =>
    rw [List.cons_append, find?_cons, ih]
    rfl

/-- Above what is there, there are directories. -/
theorem isDirectory_tail (there : Entry.isDirectory (tree.find? place) = true) :
    Entry.isDirectory (tree.find? place.tail) = true := by
  cases place with
  | nil => exact there
  | cons name parent =>
    have found : tree.find? (name :: parent) ≠ none := fun absent => by
      rw [absent] at there
      cases there
    exact isDirectory_of_find?_cons found

/-! ## One place changed -/

/-- Putting an entry where there is one of its kind changes nothing elsewhere. -/
theorem find?_put {entry : Option Entry}
    (kind : Entry.isDirectory entry = Entry.isDirectory (tree.find? place)) :
    (other ≠ place → (tree.put place entry).find? other = tree.find? other) ∧
      Entry.isDirectory ((tree.put place entry).find? other) =
        Entry.isDirectory (tree.find? other) := by
  induction other with
  | nil => exact ⟨fun _ => rfl, rfl⟩
  | cons name parent ih =>
    have elsewhere (ne : name :: parent ≠ place) :
        (tree.put place entry).find? (name :: parent) = tree.find? (name :: parent) := by
      rw [find?_cons, find?_cons, ih.2]
      simp [put, ne]
    refine ⟨elsewhere, ?_⟩
    by_cases here : name :: parent = place
    · subst here
      rw [find?_cons, ih.2]
      split
      next => simpa [put] using kind
      next absent => rw [find?_cons, if_neg absent]
    · rw [elsewhere here]

theorem find?_put_self {entry : Option Entry} {name : String} {parent : Place}
    (there : Entry.isDirectory (tree.find? parent) = true)
    (kind : Entry.isDirectory entry = Entry.isDirectory (tree.find? (name :: parent))) :
    (tree.put (name :: parent) entry).find? (name :: parent) = entry := by
  rw [find?_cons, (find?_put kind).2, if_pos there]
  simp [put]

/-- Putting an entry where there is one of its shape changes no shape. -/
theorem shape_put {entry : Option Entry}
    (same : Entry.shape entry = Entry.shape (tree.find? place)) (other : Place) :
    Entry.shape ((tree.put place entry).find? other) = Entry.shape (tree.find? other) := by
  have kind := Entry.isDirectory_congr same
  by_cases here : other = place
  · subst here
    cases other with
    | nil => rfl
    | cons name parent =>
      rw [find?_cons, (find?_put kind).2]
      split
      next => simpa [put] using same
      next absent => rw [find?_cons, if_neg absent]
  · rw [(find?_put kind).1 here]

theorem put_put (tree : FileTree) (place : Place) (entry entry' : Option Entry) :
    (tree.put place entry).put place entry' = tree.put place entry' := by
  refine congrArg (fun entry? => { tree with entry? }) (funext fun other => ?_)
  by_cases here : other = place <;> simp [put, here]

theorem put_comm (tree : FileTree) (apart : place ≠ other) (entry entry' : Option Entry) :
    (tree.put place entry).put other entry' = (tree.put other entry').put place entry := by
  refine congrArg (fun entry? => { tree with entry? }) (funext fun third => ?_)
  by_cases here : third = place <;> simp [put, here, apart]

/-- What is where does not depend on what the files with several names hold. -/
theorem find?_share (tree : FileTree) (shared : Nat → Nat × ByteArray) (place : Place) :
    ({ tree with shared } : FileTree).find? place = tree.find? place := by
  induction place with
  | nil => rfl
  | cons name parent ih => rw [find?_cons, find?_cons, ih]

/-- Making a directory where nothing was changes nothing elsewhere. -/
theorem find?_make (absent : tree.find? place = none) (mode : Nat) (ne : other ≠ place) :
    ((tree.erase place).put place (some (.directory mode))).find? other = tree.find? other := by
  induction other with
  | nil => rfl
  | cons name parent ih =>
    rw [find?_cons, find?_cons]
    by_cases under : place <:+ name :: parent
    · -- Nothing was below the place, and nothing is below it now.
      have inside : place <:+ parent := (List.suffix_cons_iff.1 under).resolve_left (Ne.symm ne)
      obtain ⟨below, rfl⟩ := inside
      rw [find?_append_eq_none absent]
      simp [put, erase, ne, under, Entry.isDirectory]
    · have apart : parent ≠ place := fun same => under (same ▸ List.suffix_cons name parent)
      rw [ih apart]
      simp [put, erase, ne, under]

theorem find?_make_self {name : String} {parent : Place}
    (there : Entry.isDirectory (tree.find? parent) = true)
    (absent : tree.find? (name :: parent) = none) (mode : Nat) :
    ((tree.erase (name :: parent)).put (name :: parent) (some (.directory mode))).find?
      (name :: parent) = some (.directory mode) := by
  have apart : parent ≠ name :: parent := (List.cons_ne_self name parent).symm
  rw [find?_cons, find?_make absent mode apart, if_pos there]
  simp [put]

end FileTree
end InteractiveMobs
