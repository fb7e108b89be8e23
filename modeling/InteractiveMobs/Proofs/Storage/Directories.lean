import InteractiveMobs.Proofs.Storage.Ways

/-!
# Directories that are made

Making the directories of a path makes those that are missing, from the outermost one in, and each
new one is empty. Where a path leads to a directory already, nothing is made. If the way to the
missing ones leads only inward from there, all that is made lies on the way to the last one, so a
name in it holds what it held before: nothing (`contents_makeOuter`).
-/

namespace InteractiveMobs
set_option autoImplicit false

namespace FileTree

variable {tree after : FileTree} {place goal : Place} {parts front rest : List String}
  {part : String} {path : Path}

/-! ## One directory -/

/-- A name that holds nothing is one in a directory. -/
theorem exists_parent_of_absent (h : tree.reach false place (front ++ [part]) = .ok goal)
    (absent : tree.find? goal = none) :
    ∃ directory, Entry.isDirectory (tree.find? directory) = true ∧ goal = part :: directory := by
  obtain ⟨directory, -, there, rfl⟩ := exists_directory_of_reach h
  refine ⟨directory, there, ?_⟩
  unfold follow at absent ⊢
  split at absent
  next =>
    rw [absent] at there
    cases there
  next stays =>
    rw [if_neg stays]
    split at absent
    next =>
      have outer := isDirectory_tail there
      rw [absent] at outer
      cases outer
    next inward => rw [if_neg inward]

theorem ensureDirectory_ok (h : tree.ensureDirectory place parts = .ok after) :
    after = tree ∧ tree.leadsToDirectory place parts = true ∨
      ∃ goal, tree.reach false place parts = .ok goal ∧ tree.find? goal = none ∧
        after = (tree.erase goal).put goal (some (.directory directoryMode)) := by
  unfold ensureDirectory at h
  cases made : tree.makeDirectory place parts with
  | error error =>
    rw [made] at h
    dsimp only at h
    split at h
    next leads =>
      cases h
      exact .inl ⟨rfl, leads⟩
    next => cases h
  | ok new =>
    rw [made] at h
    cases h
    obtain ⟨goal, reached, made⟩ := exists_of_bind_ok made
    split at made
    next absent =>
      cases made
      exact .inr ⟨goal, reached, absent, rfl⟩
    next => cases made

/-- Where there is a directory none is made. -/
theorem makeDirectory_of_leads (leads : tree.leadsToDirectory place parts = true) :
    tree.makeDirectory place parts = .error .alreadyExists := by
  obtain ⟨directory, reached, there⟩ := leadsToDirectory_iff.1 leads
  obtain ⟨named, sought, same⟩ := exists_unopened reached
  rw [makeDirectory, sought]
  simp only [bind, Except.bind]
  cases found : tree.find? named with
  | some entry => rfl
  | none =>
    rw [same (link?_of_absent found), found] at there
    cases there

theorem ensureDirectory_of_leads (leads : tree.leadsToDirectory place parts = true) :
    tree.ensureDirectory place parts = .ok tree := by
  rw [ensureDirectory, makeDirectory_of_leads leads]
  exact if_pos leads

/-- The parts lead to a directory with nothing in it. -/
def LeadsToEmpty (tree : FileTree) (place : Place) (parts : List String) : Prop :=
  ∃ directory, tree.reach true place parts = .ok directory ∧
    Entry.isDirectory (tree.find? directory) = true ∧
    ∀ name, tree.find? (name :: directory) = none

theorem LeadsToEmpty.leads (h : tree.LeadsToEmpty place parts) :
    tree.leadsToDirectory place parts = true := by
  obtain ⟨directory, reached, there, -⟩ := h
  exact leadsToDirectory_iff.2 ⟨directory, reached, there⟩

/-- A directory that is made sure of was there, or it is empty. -/
theorem stays_ensureDirectory (h : tree.ensureDirectory place (front ++ [part]) = .ok after) :
    tree.Stays after ∧ (after = tree ∨ after.LeadsToEmpty place (front ++ [part])) := by
  rcases ensureDirectory_ok h with ⟨rfl, -⟩ | ⟨goal, reached, absent, rfl⟩
  · exact ⟨Stays.refl _, .inl rfl⟩
  · obtain ⟨directory, there, rfl⟩ := exists_parent_of_absent reached absent
    have stays := stays_make there absent directoryMode
    have made := find?_make_self there absent directoryMode
    have opened : Entry.isDirectory (some (.directory directoryMode)) = true := rfl
    rw [← made] at opened
    refine ⟨stays, .inr ⟨part :: directory, ?_, opened, fun name => ?_⟩⟩
    · exact reach_of_unopened (reach_mono stays reached) (link?_of_isDirectory opened)
    · have apart : name :: part :: directory ≠ part :: directory :=
        List.cons_ne_self name (part :: directory)
      rw [find?_make absent _ apart]
      exact find?_append_eq_none absent [name]

theorem leads_of_ensureDirectory (h : tree.ensureDirectory place (front ++ [part]) = .ok after) :
    after.leadsToDirectory place (front ++ [part]) = true := by
  rcases ensureDirectory_ok h with ⟨rfl, leads⟩ | ⟨goal, reached, absent, made⟩
  · exact leads
  · rcases (stays_ensureDirectory h).2 with rfl | empty
    · exfalso
      obtain ⟨directory, there, rfl⟩ := exists_parent_of_absent reached absent
      have found := find?_make_self there absent directoryMode
      rw [← made, absent] at found
      cases found
    · exact empty.leads

/-- An empty directory is left inward only by a part that stays there. -/
theorem LeadsToEmpty.concat (h : tree.LeadsToEmpty place front) (inward : part ≠ "..")
    (leads : tree.leadsToDirectory place (front ++ [part]) = true) :
    tree.LeadsToEmpty place (front ++ [part]) := by
  obtain ⟨directory, reached, there, empty⟩ := h
  obtain ⟨goal, reached', there'⟩ := leadsToDirectory_iff.1 leads
  obtain ⟨next, named, same⟩ := exists_unopened reached'
  obtain ⟨outer, sought, -, rfl⟩ := exists_directory_of_reach named
  obtain rfl : directory = outer := Except.ok.inj (reached.symm.trans sought)
  refine ⟨goal, reached', there', ?_⟩
  unfold follow at same
  split at same
  next =>
    rw [same (link?_of_isDirectory there)]
    exact empty
  next =>
    rw [same (link?_of_absent (empty part)), empty part] at there'
    cases there'

/-- From an empty directory no way leads inward to another one. -/
theorem LeadsToEmpty.append (h : tree.LeadsToEmpty place front) (inward : ".." ∉ rest)
    (leads : tree.leadsToDirectory place (front ++ rest) = true) :
    tree.LeadsToEmpty place (front ++ rest) := by
  induction rest using List.reverseRecOn with
  | nil => rwa [List.append_nil]
  | append_singleton rest part ih =>
    rw [← List.append_assoc] at leads ⊢
    have outer := ih (fun mem => inward (List.mem_append_left _ mem))
      (leadsToDirectory_of_append leads)
    exact outer.concat (fun same => inward (by simp [same])) leads

/-- A directory made sure of inward from an empty one is empty. -/
theorem LeadsToEmpty.ensureDirectory (h : tree.LeadsToEmpty place front) (inward : part ≠ "..")
    (ensured : tree.ensureDirectory place (front ++ [part]) = .ok after) :
    after.LeadsToEmpty place (front ++ [part]) := by
  rcases (stays_ensureDirectory ensured).2 with rfl | empty
  · exact h.concat inward (leads_of_ensureDirectory ensured)
  · exact empty

/-! ## All that are missing -/

/-- What holds of the tree, and holds on when one more directory is made sure of, holds of what
making the directories of a path leaves. -/
theorem makeOuter_induct {motive : Nat → FileTree → Prop} (here : ∀ n, motive n tree)
    (step : ∀ n outer after, (h : n < parts.length) → motive n outer →
      outer.ensureDirectory place (parts.take n ++ [parts[n]]) = .ok after → motive (n + 1) after)
    {n : Nat} (small : n ≤ parts.length) (h : tree.makeOuter place parts n = .ok after) :
    motive n after := by
  induction n generalizing after with
  | zero =>
    cases h
    exact here 0
  | succ n ih =>
    rw [makeOuter, List.take_succ_eq_append_getElem small] at h
    split at h
    next =>
      obtain ⟨outer, made, ensured⟩ := exists_of_bind_ok h
      exact step n outer after small (ih (Nat.le_of_succ_le small) made) ensured
    next => exact step n tree after small (here n) h

/-- Where the parts lead to a directory, no directory on the way is made. -/
theorem makeOuter_of_leads {n : Nat} (leads : tree.leadsToDirectory place (parts.take n) = true) :
    tree.makeOuter place parts n = .ok tree := by
  cases n with
  | zero => rfl
  | succ n =>
    rw [makeOuter, makeDirectory_of_leads leads]
    exact ensureDirectory_of_leads leads

theorem leads_take {n m : Nat} (le : n ≤ m)
    (leads : tree.leadsToDirectory place (parts.take m) = true) :
    tree.leadsToDirectory place (parts.take n) = true := by
  have split := List.take_append_drop n (parts.take m)
  rw [List.take_take, Nat.min_eq_left le] at split
  rw [← split] at leads
  exact leadsToDirectory_of_append leads

/-- From some part on the way leads only inward, and up to there it leads to a directory. -/
structure Turns (tree : FileTree) (place : Place) (parts : List String) (n : Nat) : Prop where
  leads : n = 0 ∨ tree.leadsToDirectory place (parts.take n) = true
  inward : ".." ∉ parts.drop n

/-- If a directory was made at all, an empty one is there now. -/
theorem Turns.makeOuter {m n : Nat} (turns : tree.Turns place parts m) (small : n ≤ parts.length)
    (h : tree.makeOuter place parts n = .ok after) :
    after = tree ∨ m < n ∧ after.LeadsToEmpty place (parts.take n) := by
  refine makeOuter_induct (motive := fun n after =>
    after = tree ∨ m < n ∧ after.LeadsToEmpty place (parts.take n)) (fun _ => .inl rfl) ?_ small h
  rintro n outer after small (rfl | ⟨behind, empty⟩) ensured
  · rcases Nat.lt_or_ge n m with before | behind
    · left
      have leads : outer.leadsToDirectory place (parts.take (n + 1)) = true :=
        leads_take before (turns.leads.resolve_left (by omega))
      rw [List.take_succ_eq_append_getElem small] at leads
      rw [ensureDirectory_of_leads leads] at ensured
      exact (Except.ok.inj ensured).symm
    · rw [List.take_succ_eq_append_getElem small]
      exact (stays_ensureDirectory ensured).2.imp_right fun empty =>
        ⟨Nat.lt_succ_of_le behind, empty⟩
  · right
    have inward : parts[n] ≠ ".." := fun same => turns.inward (same ▸ List.mem_drop_iff_getElem.2
      ⟨n - m, by omega, by congr 1; omega⟩)
    rw [List.take_succ_eq_append_getElem small]
    exact ⟨Nat.lt_succ_of_lt behind, empty.ensureDirectory inward ensured⟩

/-! ## The directories of a path -/

/-- Every directory on the way to the path is there, or the way only leads inward. Only a path of
this kind can be made without touching what its way goes around. -/
def Hosts (tree : FileTree) (path : Path) : Prop :=
  (∃ place, tree.locate path = .ok place) ∨ ".." ∉ path.parts

/-- What there is by the name that a path ends in. -/
def named? (tree : FileTree) (path : Path) : Option Entry :=
  match tree.seek path with
  | .ok place => tree.find? place
  | .error _ => none

/-- What shows at a place. A file with several names shows alike by each of them. -/
def shows? (tree : FileTree) (place : Place) : Option Entry :=
  match tree.find? place with
  | some (.name number) => some (.file (tree.shared number).1 (tree.shared number).2)
  | entry => entry

/-- What shows by the name that a path ends in, and all that is below it. -/
def contents (tree : FileTree) (path : Path) (below : Place) : Option Entry :=
  match tree.seek path with
  | .ok place => tree.shows? (below ++ place)
  | .error _ => none

theorem named?_of_seek (h : tree.seek path = .ok place) : tree.named? path = tree.find? place := by
  rw [named?, h]

theorem contents_of_seek (h : tree.seek path = .ok place) (below : Place) :
    tree.contents path below = tree.shows? (below ++ place) := by
  rw [contents, h]

theorem exists_seek_of_named? {entry : Entry} (h : tree.named? path = some entry) :
    ∃ place, tree.seek path = .ok place ∧ tree.find? place = some entry := by
  cases sought : tree.seek path with
  | error error =>
    rw [named?, sought] at h
    cases h
  | ok place => exact ⟨place, rfl, by rw [← named?_of_seek sought, h]⟩

theorem exists_seek_of_contents {entry : Entry} (h : tree.contents path [] = some entry) :
    ∃ place, tree.seek path = .ok place ∧ tree.shows? place = some entry := by
  cases sought : tree.seek path with
  | error error =>
    rw [contents, sought] at h
    cases h
  | ok place => exact ⟨place, rfl, by rw [← h, contents_of_seek sought, List.nil_append]⟩

/-- Names are sought in directories only. -/
theorem leads_of_seek (some_text : path.text ≠ "") (name : IsName part)
    (sought : tree.seek (path.join part) = .ok place) :
    tree.leadsToDirectory (tree.start path) path.parts = true := by
  obtain ⟨directory, located, there, -⟩ := (seek_join_eq_ok_iff some_text name).1 sought
  exact leadsToDirectory_iff.2 ⟨directory, (locate_eq_ok_iff.1 located).2, there⟩

theorem named?_of_not_leads (some_text : path.text ≠ "") (name : IsName part)
    (astray : tree.leadsToDirectory (tree.start path) path.parts = false) :
    tree.named? (path.join part) = none := by
  cases sought : tree.seek (path.join part) with
  | error error => rw [named?, sought]
  | ok place =>
    rw [leads_of_seek some_text name sought] at astray
    cases astray

/-- A name in a path that leads to an empty directory holds nothing. -/
theorem LeadsToEmpty.named? (some_text : path.text ≠ "") (name : IsName part)
    (h : tree.LeadsToEmpty (tree.start path) path.parts) :
    tree.named? (path.join part) = none := by
  obtain ⟨directory, reached, there, empty⟩ := h
  have located : tree.locate path = .ok directory := locate_eq_ok_iff.2 ⟨some_text, reached⟩
  rw [named?_of_seek ((seek_join_eq_ok_iff some_text name).2 ⟨directory, located, there, rfl⟩)]
  exact empty part

end FileTree
end InteractiveMobs
