import InteractiveMobs.Proofs.Storage.Places
import Mathlib.Data.List.Induction

/-!
# Ways in a file tree

Where the parts of a path lead. A way stays one as long as directories and links stay
(`FileTree.Stays`). Its last part is taken from the place that the parts before it lead to
(`reach_concat`), and if there is no symbolic link there the way ends where its last name is
(`reach_of_unopened`, `exists_unopened`).
-/

namespace InteractiveMobs
set_option autoImplicit false

/-- What goes well in two parts goes well in each. -/
theorem exists_of_bind_ok {ε α β : Type} {first : Except ε α} {next : α → Except ε β} {b : β}
    (h : (first >>= next) = .ok b) : ∃ a, first = .ok a ∧ next a = .ok b := by
  cases first with
  | error e => cases h
  | ok a => exact ⟨a, rfl, h⟩

namespace FileTree

variable {tree after : FileTree} {place next goal : Place} {part : String} {ends : Bool}

theorem enter_eq_ok_iff : tree.enter place part = .ok next ↔
    Entry.isDirectory (tree.find? place) = true ∧ next = follow place part := by
  unfold enter
  rcases tree.find? place with _ | _ | _ | _ | _ <;> simp [Entry.isDirectory, eq_comm]

theorem walk_cons {onward : Place → List String → Except FileError Place} {rest : List String}
    (entered : tree.enter place part = .ok next) :
    tree.walk ends onward place (part :: rest) =
      match tree.opened? ends next rest with
      | none => tree.walk ends onward next rest
      | some target => onward (origin next.tail target) (target.parts ++ rest) := by
  rw [walk, entered]
  rfl

theorem opened?_true (place : Place) (rest : List String) :
    tree.opened? true place rest = tree.link? place := rfl

theorem opened?_cons (ends : Bool) (place : Place) (part : String) (rest : List String) :
    tree.opened? ends place (part :: rest) = tree.link? place := by simp [opened?]

/-! ## What ways depend on -/

/-- Directories stay, and so do symbolic links, of which there are no others. -/
structure Stays (before after : FileTree) : Prop where
  current : after.current = before.current
  directories : ∀ place, Entry.isDirectory (before.find? place) = true →
    Entry.isDirectory (after.find? place) = true
  links : ∀ place, after.link? place = before.link? place

theorem Stays.refl (tree : FileTree) : tree.Stays tree := ⟨rfl, fun _ => id, fun _ => rfl⟩

theorem Stays.trans {middle : FileTree} (h : tree.Stays middle) (h' : middle.Stays after) :
    tree.Stays after where
  current := h'.current.trans h.current
  directories place there := h'.directories place (h.directories place there)
  links place := (h'.links place).trans (h.links place)

/-- Nothing that ways depend on differs. -/
structure Alike (tree after : FileTree) : Prop where
  current : after.current = tree.current
  shape : ∀ place, Entry.shape (after.find? place) = Entry.shape (tree.find? place)

theorem Alike.refl (tree : FileTree) : tree.Alike tree := ⟨rfl, fun _ => rfl⟩

theorem Alike.symm (alike : tree.Alike after) : after.Alike tree :=
  ⟨alike.current.symm, fun place => (alike.shape place).symm⟩

theorem Alike.trans {middle : FileTree} (h : tree.Alike middle) (h' : middle.Alike after) :
    tree.Alike after :=
  ⟨h'.current.trans h.current, fun place => (h'.shape place).trans (h.shape place)⟩

theorem Alike.isDirectory (alike : tree.Alike after) (place : Place) :
    Entry.isDirectory (after.find? place) = Entry.isDirectory (tree.find? place) :=
  Entry.isDirectory_congr (alike.shape place)

theorem Alike.stays (alike : tree.Alike after) : tree.Stays after where
  current := alike.current
  directories place there := (alike.isDirectory place).trans there
  links place := link?_congr (alike.shape place)

theorem alike_put {entry : Option Entry}
    (same : Entry.shape entry = Entry.shape (tree.find? place)) :
    tree.Alike (tree.put place entry) := ⟨rfl, shape_put same⟩

/-- Trees that are alike are so when the same is put in them where there was no directory. -/
theorem Alike.put (alike : tree.Alike after) {entry : Option Entry}
    (inside : Entry.isDirectory entry = false)
    (free : Entry.isDirectory (tree.find? place) = false) :
    (tree.put place entry).Alike (after.put place entry) where
  current := alike.current
  shape other := by
    have kind : Entry.isDirectory entry = Entry.isDirectory (tree.find? place) :=
      inside.trans free.symm
    have kind' : Entry.isDirectory entry = Entry.isDirectory (after.find? place) :=
      kind.trans (alike.isDirectory place).symm
    by_cases here : other = place
    · subst here
      cases other with
      | nil => rfl
      | cons name parent =>
        rw [find?_cons, find?_cons, (find?_put kind).2, (find?_put kind').2,
          alike.isDirectory parent]
        simp [FileTree.put]
    · rw [(find?_put kind).1 here, (find?_put kind').1 here, alike.shape other]

theorem stays_make {name : String} {parent : Place}
    (there : Entry.isDirectory (tree.find? parent) = true)
    (absent : tree.find? (name :: parent) = none) (mode : Nat) :
    tree.Stays ((tree.erase (name :: parent)).put (name :: parent) (some (.directory mode))) where
  current := rfl
  directories place there := by
    by_cases here : place = name :: parent
    · rw [here, absent] at there
      cases there
    · rwa [find?_make absent mode here]
  links place := by
    by_cases here : place = name :: parent
    · subst here
      rw [link?_of_absent absent, link?, find?_make_self there absent]
    · exact link?_congr (congrArg Entry.shape (find?_make absent mode here))

theorem Stays.opened? (stays : tree.Stays after) (ends : Bool) (place : Place)
    (rest : List String) : after.opened? ends place rest = tree.opened? ends place rest := by
  rw [FileTree.opened?, FileTree.opened?, stays.links]

theorem walk_mono (stays : tree.Stays after)
    {onward onward' : Place → List String → Except FileError Place}
    (later : ∀ place parts, onward place parts = .ok goal → onward' place parts = .ok goal)
    {parts : List String} (h : tree.walk ends onward place parts = .ok goal) :
    after.walk ends onward' place parts = .ok goal := by
  induction parts generalizing place with
  | nil => exact h
  | cons part rest ih =>
    obtain ⟨next, entered, -⟩ := exists_of_bind_ok h
    obtain ⟨there, same⟩ := enter_eq_ok_iff.1 entered
    have entered' : after.enter place part = .ok next :=
      enter_eq_ok_iff.2 ⟨stays.directories place there, same⟩
    rw [walk_cons entered] at h
    rw [walk_cons entered', stays.opened?]
    cases opened : tree.opened? ends next rest with
    | none =>
      rw [opened] at h
      exact ih h
    | some target =>
      rw [opened] at h
      exact later _ _ h

/-- A way stays one as long as directories and links stay. -/
theorem reach_mono (stays : tree.Stays after) {parts : List String}
    (h : tree.reach ends place parts = .ok goal) : after.reach ends place parts = .ok goal := by
  have within (n : Nat) : ∀ place parts, tree.reachWithin ends n place parts = .ok goal →
      after.reachWithin ends n place parts = .ok goal := by
    induction n with
    | zero =>
      intro place parts h
      refine walk_mono stays ?_ h
      exact fun _ _ never => by cases never
    | succ n ih => exact fun place parts => walk_mono stays ih
  exact within maxLinks place parts h

/-! ## The last part -/

theorem walk_concat {toEnd toName : Place → List String → Except FileError Place}
    (later : ∀ place parts, toName place (parts ++ [part]) =
      (toEnd place parts >>= fun directory => tree.enter directory part))
    (place : Place) (parts : List String) : tree.walk false toName place (parts ++ [part]) =
      (tree.walk true toEnd place parts >>= fun directory => tree.enter directory part) := by
  induction parts generalizing place with
  | nil =>
    show tree.walk false toName place [part] = tree.enter place part
    cases entered : tree.enter place part with
    | error error => rw [walk, entered]; rfl
    | ok next => rw [walk_cons entered]; rfl
  | cons first rest ih =>
    rw [List.cons_append]
    cases entered : tree.enter place first with
    | error error => rw [walk, walk, entered]; rfl
    | ok next =>
      have more : tree.opened? false next (rest ++ [part]) = tree.link? next := by simp [opened?]
      rw [walk_cons entered, walk_cons entered, more, opened?_true]
      cases tree.link? next with
      | none => exact ih next
      | some target =>
        dsimp only
        rw [← List.append_assoc]
        exact later _ _

/-- The last part is taken from where the others lead. -/
theorem reach_concat (tree : FileTree) (place : Place) (parts : List String) (part : String) :
    tree.reach false place (parts ++ [part]) =
      (tree.reach true place parts >>= fun directory => tree.enter directory part) := by
  have within (n : Nat) : ∀ place parts, tree.reachWithin false n place (parts ++ [part]) =
      (tree.reachWithin true n place parts >>= fun directory => tree.enter directory part) := by
    induction n with
    | zero => exact walk_concat fun _ _ => rfl
    | succ n ih => exact walk_concat ih
  exact within maxLinks place parts

theorem walk_of_unopened {toEnd toName : Place → List String → Except FileError Place}
    (later : ∀ place parts, toName place parts = .ok goal → toEnd place parts = .ok goal)
    (last : tree.link? goal = none) {parts : List String}
    (h : tree.walk false toName place parts = .ok goal) :
    tree.walk true toEnd place parts = .ok goal := by
  induction parts generalizing place with
  | nil => exact h
  | cons part rest ih =>
    obtain ⟨next, entered, -⟩ := exists_of_bind_ok h
    rw [walk_cons entered] at h ⊢
    cases rest with
    | nil =>
      -- The way to the name ends here.
      cases h
      rw [opened?_true, last]
      rfl
    | cons second rest =>
      rw [opened?_cons] at h ⊢
      cases found : tree.link? next with
      | none =>
        rw [found] at h
        exact ih h
      | some target =>
        rw [found] at h
        exact later _ _ h

/-- A way to a name goes on to the end if there is no link by that name. -/
theorem reach_of_unopened {parts : List String} (h : tree.reach false place parts = .ok goal)
    (last : tree.link? goal = none) : tree.reach true place parts = .ok goal := by
  have within (n : Nat) : ∀ place parts, tree.reachWithin false n place parts = .ok goal →
      tree.reachWithin true n place parts = .ok goal := by
    induction n with
    | zero =>
      intro place parts h
      refine walk_of_unopened ?_ last h
      exact fun _ _ never => by cases never
    | succ n ih => exact fun place parts => walk_of_unopened ih last
  exact within maxLinks place parts h

/-- A way ends at a name, which is the goal if there is no link by that name. -/
def EndsBefore (tree : FileTree) (way : Except FileError Place) (goal : Place) : Prop :=
  ∃ next, way = .ok next ∧ (tree.link? next = none → goal = next)

theorem walk_endsBefore {toEnd toName : Place → List String → Except FileError Place}
    (later : ∀ place parts, toEnd place parts = .ok goal →
      tree.EndsBefore (toName place parts) goal)
    {parts : List String} (h : tree.walk true toEnd place parts = .ok goal) :
    tree.EndsBefore (tree.walk false toName place parts) goal := by
  induction parts generalizing place with
  | nil => exact ⟨place, rfl, fun _ => (Except.ok.inj h).symm⟩
  | cons part rest ih =>
    obtain ⟨next, entered, -⟩ := exists_of_bind_ok h
    rw [walk_cons entered] at h ⊢
    cases rest with
    | nil =>
      refine ⟨next, rfl, fun unlinked => ?_⟩
      rw [opened?_true, unlinked] at h
      exact (Except.ok.inj h).symm
    | cons second rest =>
      rw [opened?_cons] at h ⊢
      cases found : tree.link? next with
      | none =>
        rw [found] at h
        exact ih h
      | some target =>
        rw [found] at h
        exact later _ _ h

/-- Before a way to the end there is one to the name. -/
theorem exists_unopened {parts : List String} (h : tree.reach true place parts = .ok goal) :
    ∃ next, tree.reach false place parts = .ok next ∧
      (tree.link? next = none → goal = next) := by
  have within (n : Nat) : ∀ place parts, tree.reachWithin true n place parts = .ok goal →
      tree.EndsBefore (tree.reachWithin false n place parts) goal := by
    induction n with
    | zero =>
      intro place parts h
      refine walk_endsBefore ?_ h
      exact fun _ _ never => by cases never
    | succ n ih => exact fun place parts => walk_endsBefore ih
  exact within maxLinks place parts h

/-! ## Directories on the way -/

theorem leadsToDirectory_iff {parts : List String} : tree.leadsToDirectory place parts = true ↔
    ∃ directory, tree.reach true place parts = .ok directory ∧
      Entry.isDirectory (tree.find? directory) = true := by
  unfold leadsToDirectory
  cases tree.reach true place parts <;> simp

/-- The last part of a way to a name is taken from a directory. -/
theorem exists_directory_of_reach {parts : List String}
    (h : tree.reach false place (parts ++ [part]) = .ok next) :
    ∃ directory, tree.reach true place parts = .ok directory ∧
      Entry.isDirectory (tree.find? directory) = true ∧ next = follow directory part := by
  rw [reach_concat] at h
  obtain ⟨directory, reached, entered⟩ := exists_of_bind_ok h
  exact ⟨directory, reached, enter_eq_ok_iff.1 entered⟩

/-- A way to a directory leads through directories. -/
theorem leadsToDirectory_of_append {front rest : List String}
    (h : tree.leadsToDirectory place (front ++ rest) = true) :
    tree.leadsToDirectory place front = true := by
  induction rest using List.reverseRecOn with
  | nil => rwa [List.append_nil] at h
  | append_singleton rest part ih =>
    obtain ⟨goal, reached, -⟩ := leadsToDirectory_iff.1 h
    obtain ⟨next, named, -⟩ := exists_unopened reached
    rw [← List.append_assoc] at named
    obtain ⟨directory, outer, there, -⟩ := exists_directory_of_reach named
    exact ih (leadsToDirectory_iff.2 ⟨directory, outer, there⟩)

/-! ## Paths -/

variable {path : Path}

theorem parts_ne_nil (path : Path) : path.parts ≠ [] := by simp [Path.parts]

theorem Stays.start (stays : tree.Stays after) (path : Path) :
    after.start path = tree.start path := by
  rw [FileTree.start, FileTree.start, stays.current]

theorem locate_eq_ok_iff : tree.locate path = .ok place ↔
    path.text ≠ "" ∧ tree.reach true (tree.start path) path.parts = .ok place := by
  unfold locate
  split <;> simp [*]

theorem seek_eq_ok_iff : tree.seek path = .ok place ↔
    path.text ≠ "" ∧ tree.reach false (tree.start path) path.parts = .ok place := by
  unfold seek
  split <;> simp [*]

theorem seek_mono (stays : tree.Stays after) (h : tree.seek path = .ok place) :
    after.seek path = .ok place := by
  rw [seek_eq_ok_iff] at h ⊢
  exact ⟨h.1, stays.start path ▸ reach_mono stays h.2⟩

/-- Trees that are alike have the same ways. -/
theorem Alike.seek (alike : tree.Alike after) :
    after.seek path = .ok place ↔ tree.seek path = .ok place :=
  ⟨seek_mono alike.symm.stays, seek_mono alike.stays⟩

theorem locate_mono (stays : tree.Stays after) (h : tree.locate path = .ok place) :
    after.locate path = .ok place := by
  rw [locate_eq_ok_iff] at h ⊢
  exact ⟨h.1, stays.start path ▸ reach_mono stays h.2⟩

theorem locate_of_seek (h : tree.seek path = .ok place) (unlinked : tree.link? place = none) :
    tree.locate path = .ok place := by
  rw [seek_eq_ok_iff] at h
  exact locate_eq_ok_iff.2 ⟨h.1, reach_of_unopened h.2 unlinked⟩

theorem exists_seek_of_locate (h : tree.locate path = .ok goal) :
    ∃ place, tree.seek path = .ok place ∧ (tree.link? place = none → goal = place) := by
  obtain ⟨some_text, reached⟩ := locate_eq_ok_iff.1 h
  obtain ⟨place, named, same⟩ := exists_unopened reached
  exact ⟨place, seek_eq_ok_iff.2 ⟨some_text, named⟩, same⟩

/-! ## Where ways end, and what they do without -/

theorem link?_of_walk {onward : Place → List String → Except FileError Place}
    (later : ∀ place parts, parts ≠ [] → onward place parts = .ok goal → tree.link? goal = none)
    {parts : List String} (some_parts : parts ≠ [])
    (h : tree.walk true onward place parts = .ok goal) : tree.link? goal = none := by
  induction parts generalizing place with
  | nil => exact absurd rfl some_parts
  | cons part rest ih =>
    obtain ⟨next, entered, -⟩ := exists_of_bind_ok h
    rw [walk_cons entered, opened?_true] at h
    cases found : tree.link? next with
    | some target =>
      rw [found] at h
      exact later _ _ (by simp [parts_ne_nil]) h
    | none =>
      rw [found] at h
      cases rest with
      | nil => exact Except.ok.inj h ▸ found
      | cons second rest => exact ih (List.cons_ne_nil second rest) h

/-- No way to the end ends at a symbolic link. -/
theorem link?_of_locate (h : tree.locate path = .ok goal) : tree.link? goal = none := by
  have within (n : Nat) : ∀ place parts, parts ≠ [] →
      tree.reachWithin true n place parts = .ok goal → tree.link? goal = none := by
    induction n with
    | zero =>
      intro place parts some_parts h
      refine link?_of_walk ?_ some_parts h
      exact fun _ _ _ never => by cases never
    | succ n ih => exact fun place parts => link?_of_walk ih
  exact within maxLinks _ _ (parts_ne_nil path) (locate_eq_ok_iff.1 h).2

variable {spot : Place} {entry : Option Entry}

theorem walk_put_of_absent (absent : tree.find? spot = none)
    (inside : Entry.isDirectory entry = false)
    {onward onward' : Place → List String → Except FileError Place}
    (later : ∀ place parts, onward place parts = .ok goal → onward' place parts = .ok goal)
    {parts : List String} (h : tree.walk false onward place parts = .ok goal) :
    (tree.put spot entry).walk false onward' place parts = .ok goal := by
  have kind : Entry.isDirectory entry = Entry.isDirectory (tree.find? spot) := by
    rw [inside, absent]
    rfl
  induction parts generalizing place with
  | nil => exact h
  | cons part rest ih =>
    obtain ⟨next, entered, -⟩ := exists_of_bind_ok h
    obtain ⟨there, same⟩ := enter_eq_ok_iff.1 entered
    have entered' : (tree.put spot entry).enter place part = .ok next :=
      enter_eq_ok_iff.2 ⟨(find?_put kind).2.trans there, same⟩
    rw [walk_cons entered] at h
    rw [walk_cons entered']
    cases rest with
    | nil => exact h
    | cons second rest =>
      rw [opened?_cons] at h ⊢
      by_cases here : next = spot
      · -- There is no going on from a place that holds nothing.
        subst here
        rw [link?_of_absent absent] at h
        obtain ⟨beyond, entered, -⟩ := exists_of_bind_ok h
        have inside' := (enter_eq_ok_iff.1 entered).1
        rw [absent] at inside'
        cases inside'
      · rw [link?_congr (congrArg Entry.shape ((find?_put kind).1 here))]
        cases found : tree.link? next with
        | none =>
          rw [found] at h
          exact ih h
        | some target =>
          rw [found] at h
          exact later _ _ h

/-- A way to a name that does without what is at a place goes on as it did when something that is no
directory is put there. -/
theorem seek_put_of_absent (absent : tree.find? spot = none)
    (inside : Entry.isDirectory entry = false) (h : tree.seek path = .ok place) :
    (tree.put spot entry).seek path = .ok place := by
  have within (n : Nat) : ∀ origin parts, tree.reachWithin false n origin parts = .ok place →
      (tree.put spot entry).reachWithin false n origin parts = .ok place := by
    induction n with
    | zero =>
      intro origin parts h
      refine walk_put_of_absent absent inside ?_ h
      exact fun _ _ never => by cases never
    | succ n ih => exact fun origin parts => walk_put_of_absent absent inside ih
  obtain ⟨some_text, reached⟩ := seek_eq_ok_iff.1 h
  exact seek_eq_ok_iff.2 ⟨some_text, within maxLinks _ _ reached⟩

/-! ## One more part -/

/-- A name leads further in. -/
structure IsName (part : String) : Prop where
  whole : '/' ∉ part.toList
  stays : part ≠ "" ∧ part ≠ "."
  inward : part ≠ ".."

theorem IsName.follow {part : String} (name : IsName part) (place : Place) :
    follow place part = part :: place := by
  simp [FileTree.follow, name.stays, name.inward]

theorem text_join_ne (path : Path) {part : String} (name : IsName part) :
    (path.join part).text ≠ "" := by
  unfold Path.join
  split <;> simp [name.stays.1]

/-- The parts of a path with one more part: the parts of the path, but for an empty one at its end,
and the part. -/
theorem exists_parts_join (path : Path) {part : String} (whole : '/' ∉ part.toList) :
    ∃ front, (path.join part).parts = front ++ [part] ∧
      (path.parts = front ∨ path.parts = front ++ [""]) := by
  have alone : Path.parts ⟨part⟩ = [part] := by simp [Path.parts, Path.pieces_eq_self whole]
  by_cases empty : path.text = ""
  · refine ⟨[], ?_, .inr ?_⟩
    · simpa [Path.join, empty] using alone
    · simp [Path.parts, Path.pieces, empty]
  · by_cases slash : path.text.toList.getLast? = some '/'
    · obtain ⟨front, split⟩ := List.getLast?_eq_some_iff.1 slash
      refine ⟨Path.parts ⟨String.ofList front⟩, ?_, .inr ?_⟩
      · rw [← alone, ← Path.parts_of_slash part split]
        simp [Path.join, slash]
      · simpa [Path.parts, Path.pieces] using Path.parts_of_slash "" split
    · refine ⟨path.parts, ?_, .inl rfl⟩
      rw [← alone, ← Path.parts_slash]
      simp [Path.join, slash, empty]

theorem start_join (tree : FileTree) (path : Path) {part : String} (whole : '/' ∉ part.toList) :
    tree.start (path.join part) = tree.start path := by
  have same : (path.join part).isAbsolute = path.isAbsolute := by
    unfold Path.isAbsolute Path.join
    cases text : path.text.toList with
    | nil =>
      have empty : path.text = "" := by simpa using text
      cases first : part.toList with
      | nil => simp [empty, first]
      | cons c rest =>
        have ne : c ≠ '/' := fun same => whole (by simp [first, same])
        simp [empty, first, ne]
    | cons c rest => split <;> simp [text]
  rw [start, start, origin, origin, same]

/-- An empty part behind a way to a directory stays there. -/
theorem reach_append_empty {parts : List String} {directory : Place}
    (there : Entry.isDirectory (tree.find? directory) = true) :
    tree.reach true place (parts ++ [""]) = .ok directory ↔
      tree.reach true place parts = .ok directory := by
  constructor
  · intro reached
    obtain ⟨next, named, same⟩ := exists_unopened reached
    obtain ⟨outer, reached', there', rfl⟩ := exists_directory_of_reach named
    rwa [same (link?_of_isDirectory there')]
  · intro reached
    refine reach_of_unopened ?_ (link?_of_isDirectory there)
    rw [reach_concat, reached]
    exact enter_eq_ok_iff.2 ⟨there, rfl⟩

/-- A name in a directory is sought where the path of the directory leads. -/
theorem seek_join_eq_ok_iff (some_text : path.text ≠ "") (name : IsName part) :
    tree.seek (path.join part) = .ok place ↔ ∃ directory, tree.locate path = .ok directory ∧
      Entry.isDirectory (tree.find? directory) = true ∧ place = part :: directory := by
  obtain ⟨front, joined, own⟩ := exists_parts_join path name.whole
  have same {directory : Place} (there : Entry.isDirectory (tree.find? directory) = true) :
      tree.locate path = .ok directory ↔
        tree.reach true (tree.start path) front = .ok directory := by
    rw [locate_eq_ok_iff, and_iff_right some_text]
    rcases own with own | own
    · rw [own]
    · rw [own, reach_append_empty there]
  rw [seek_eq_ok_iff, and_iff_right (text_join_ne path name), joined,
    start_join tree path name.whole]
  constructor
  · intro reached
    obtain ⟨directory, outer, there, rfl⟩ := exists_directory_of_reach reached
    exact ⟨directory, (same there).2 outer, there, name.follow directory⟩
  · rintro ⟨directory, located, there, rfl⟩
    rw [reach_concat, (same there).1 located]
    exact enter_eq_ok_iff.2 ⟨there, (name.follow directory).symm⟩

end FileTree
end InteractiveMobs
