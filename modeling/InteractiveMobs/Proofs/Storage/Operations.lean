import InteractiveMobs.Proofs.Storage.Directories

/-!
# What operations change

Writing a file and changing its permissions fill the place that the path leads to
(`FileTree.write_ok`, `FileTree.setMode_item`), and moving a file empties one place for another
(`FileTree.moveFile_eq`). Nothing else changes then, but for what shows by the other names of a file
that is filled.
-/

namespace InteractiveMobs
set_option autoImplicit false

namespace FileTree

variable {tree after : FileTree} {path source target : Path} {place origin other : Place}
  {mode : Nat} {document : ByteArray} {part : String}

/-! ## Trees that are alike -/

/-- What is named where a way leads nowhere in one of two trees that are alike. -/
theorem Alike.seek_error (alike : tree.Alike after) {error : FileError}
    (sought : tree.seek path = .error error) : ∃ error', after.seek path = .error error' := by
  cases sought' : after.seek path with
  | error error' => exact ⟨error', rfl⟩
  | ok place =>
    rw [alike.seek.1 sought'] at sought
    cases sought

theorem Alike.shape_named? (alike : tree.Alike after) (path : Path) :
    Entry.shape (after.named? path) = Entry.shape (tree.named? path) := by
  cases sought : tree.seek path with
  | ok place =>
    rw [named?_of_seek sought, named?_of_seek (alike.seek.2 sought), alike.shape place]
  | error error =>
    obtain ⟨error', sought'⟩ := alike.seek_error sought
    rw [named?, named?, sought, sought']

/-- What shows at a name, and below it, stays if nothing is changed there. -/
theorem Alike.contents (alike : tree.Alike after)
    (same : ∀ place, tree.seek path = .ok place →
      ∀ below, after.shows? (below ++ place) = tree.shows? (below ++ place)) :
    after.contents path = tree.contents path := by
  funext below
  cases sought : tree.seek path with
  | ok place =>
    rw [contents_of_seek sought, contents_of_seek (alike.seek.2 sought), same place sought]
  | error error =>
    obtain ⟨error', sought'⟩ := alike.seek_error sought
    rw [FileTree.contents, FileTree.contents, sought, sought']

/-! ## A file filled -/

theorem itemAt?_of_shows? (shown : tree.shows? place = some (.file mode document)) :
    tree.itemAt? place = some (.file mode document) := by
  unfold shows? at shown
  unfold itemAt?
  rcases found : tree.find? place with _ | _ | _ | _ | _ <;> rw [found] at shown <;>
    cases shown <;> rfl

/-- What shows as a file is one, and no link. -/
theorem shape_of_shows? (shown : tree.shows? place = some (.file mode document)) :
    Entry.shape (tree.find? place) = .closed := by
  unfold shows? at shown
  rcases found : tree.find? place with _ | _ | _ | _ | _ <;> rw [found] at shown <;>
    cases shown <;> rfl

theorem exists_of_shows? (shown : tree.shows? place = some (.file mode document)) :
    ∃ entry, tree.find? place = some entry ∧ Entry.shape (some entry) = .closed := by
  have closed := shape_of_shows? shown
  cases found : tree.find? place with
  | some entry => exact ⟨entry, rfl, found ▸ closed⟩
  | none =>
    rw [shows?, found] at shown
    cases shown

theorem fill_of_name {number : Nat} (found : tree.find? place = some (.name number)) :
    tree.fill place mode document = { tree with
      shared := fun other => if other = number then (mode, document) else tree.shared other } := by
  rw [fill, found]

theorem fill_of_single (single : ∀ number, tree.find? place ≠ some (.name number)) :
    tree.fill place mode document = tree.put place (some (.file mode document)) := by
  unfold fill
  split
  next number found => exact absurd found (single number)
  next => rfl

/-- Either the file has several names, or it is put in its place. -/
theorem fill_cases (tree : FileTree) (place : Place) :
    (∃ number, tree.find? place = some (.name number)) ∨
      ∀ number, tree.find? place ≠ some (.name number) := by
  by_cases several : ∃ number, tree.find? place = some (.name number)
  · exact .inl several
  · exact .inr (not_exists.1 several)

/-- A file takes the place of a file, or fills one that is empty. -/
theorem shape_file (closed : Entry.shape (tree.find? place) = .closed) :
    Entry.shape (some (.file mode document)) = Entry.shape (tree.find? place) := closed.symm

/-- Filling a place makes no way of it. -/
theorem alike_fill (closed : Entry.shape (tree.find? place) = .closed) :
    tree.Alike (tree.fill place mode document) := by
  rcases fill_cases tree place with ⟨number, found⟩ | single
  · rw [fill_of_name found]
    exact ⟨rfl, fun other => congrArg Entry.shape (find?_share _ _ other)⟩
  · rw [fill_of_single single]
    exact alike_put (shape_file closed)

theorem find?_fill (closed : Entry.shape (tree.find? place) = .closed) (ne : other ≠ place) :
    (tree.fill place mode document).find? other = tree.find? other := by
  rcases fill_cases tree place with ⟨number, found⟩ | single
  · rw [fill_of_name found, find?_share]
  · rw [fill_of_single single]
    exact (find?_put (Entry.isDirectory_congr (shape_file closed))).1 ne

/-- Filling changes what shows at a place only if that is a name of the same file. -/
theorem shows?_fill (closed : Entry.shape (tree.find? place) = .closed) (ne : other ≠ place)
    (apart : ∀ number, tree.find? place = some (.name number) →
      tree.find? other ≠ some (.name number)) :
    (tree.fill place mode document).shows? other = tree.shows? other := by
  rw [shows?, shows?, find?_fill closed ne]
  split
  next number' found' =>
    rcases fill_cases tree place with ⟨number, found⟩ | single
    · have ne : number' ≠ number := fun same => apart number found (same ▸ found')
      simp [fill_of_name found, ne]
    · rw [fill_of_single single]
      rfl
  next => rfl

theorem find?_fill_self {parent : Place} (there : Entry.isDirectory (tree.find? parent) = true)
    (closed : Entry.shape (tree.find? (part :: parent)) = .closed) :
    (∃ number, tree.find? (part :: parent) = some (.name number) ∧
      (tree.fill (part :: parent) mode document).find? (part :: parent) = some (.name number)) ∨
    (tree.fill (part :: parent) mode document).find? (part :: parent) =
      some (.file mode document) := by
  rcases fill_cases tree (part :: parent) with ⟨number, found⟩ | single
  · exact .inl ⟨number, found, by rw [fill_of_name found, find?_share, found]⟩
  · right
    rw [fill_of_single single]
    exact find?_put_self there (Entry.isDirectory_congr (shape_file closed))

theorem shows?_fill_self {parent : Place} (there : Entry.isDirectory (tree.find? parent) = true)
    (closed : Entry.shape (tree.find? (part :: parent)) = .closed) :
    (tree.fill (part :: parent) mode document).shows? (part :: parent) =
      some (.file mode document) := by
  rcases find?_fill_self there closed with ⟨number, found, now⟩ | now
  · rw [shows?, now, fill_of_name found]
    simp
  · rw [shows?, now]

/-! ## What operations do -/

theorem write_item {old : ByteArray} (located : tree.locate path = .ok place)
    (found : tree.itemAt? place = some (.file mode old)) (document : ByteArray) :
    tree.write path document = .ok (tree.fill place mode document) := by
  rw [write, located]
  simp only [bind, Except.bind, found]
  rfl

theorem write_new (located : tree.locate path = .ok place) (absent : tree.find? place = none)
    (document : ByteArray) :
    tree.write path document = .ok (tree.fill place fileMode document) := by
  rw [write, located]
  simp only [bind, Except.bind, itemAt?, absent]
  rfl

/-- Writing fills the place that the path leads to. -/
theorem write_ok (h : tree.write path document = .ok after) : ∃ place mode,
    tree.locate path = .ok place ∧ Entry.shape (tree.find? place) = .closed ∧
      after = tree.fill place mode document := by
  obtain ⟨place, located, written⟩ := exists_of_bind_ok h
  have unlinked := link?_eq_none_iff.1 (link?_of_locate located)
  rcases found : tree.find? place with _ | ⟨mode, old⟩ | _ | number | _
  · rw [write_new located found] at h
    exact ⟨place, fileMode, located, congrArg Entry.shape found, (Except.ok.inj h).symm⟩
  · rw [write_item located (by rw [itemAt?, found])] at h
    exact ⟨place, mode, located, congrArg Entry.shape found, (Except.ok.inj h).symm⟩
  · simp only [itemAt?, found] at written
    cases written
  · rw [write_item located (by rw [itemAt?, found])] at h
    exact ⟨place, _, located, congrArg Entry.shape found, (Except.ok.inj h).symm⟩
  · rw [found] at unlinked
    cases unlinked

theorem alike_write (h : tree.write path document = .ok after) : tree.Alike after := by
  obtain ⟨place, mode, -, closed, rfl⟩ := write_ok h
  exact alike_fill closed

/-- Where there is no symbolic link by the name, the path leads to the place of that name. -/
theorem seek_of_locate (unlinked : Entry.isSymbolicLink (tree.named? path) = false)
    (located : tree.locate path = .ok place) : tree.seek path = .ok place := by
  obtain ⟨named, sought, same⟩ := exists_seek_of_locate located
  rw [named?_of_seek sought] at unlinked
  rwa [same (link?_eq_none_iff.2 unlinked)]

theorem setMode_item (located : tree.locate path = .ok place) {old : Nat}
    (found : tree.itemAt? place = some (.file old document)) (mode : Nat) :
    tree.setMode path mode = .ok (tree.fill place mode document) := by
  rw [setMode, located]
  simp only [bind, Except.bind, found]
  rfl

theorem setMode_directory (located : tree.locate path = .ok place)
    (there : Entry.isDirectory (tree.find? place) = true) (mode : Nat) :
    tree.setMode path mode = .ok (tree.put place (some (.directory mode))) := by
  rw [setMode, located]
  rcases found : tree.find? place with _ | _ | _ | _ | _ <;> rw [found] at there <;>
    simp only [bind, Except.bind, itemAt?, found]
  · cases there
  · cases there
  · rfl
  · cases there
  · cases there

/-- Other permissions make no way of anything. -/
theorem alike_setMode (h : tree.setMode path mode = .ok after) : tree.Alike after := by
  obtain ⟨place, located, set⟩ := exists_of_bind_ok h
  have unlinked := link?_eq_none_iff.1 (link?_of_locate located)
  rcases found : tree.find? place with _ | ⟨old, contents⟩ | old | number | target
  · simp only [itemAt?, found] at set
    cases set
  · rw [setMode_item located (by rw [itemAt?, found])] at h
    exact Except.ok.inj h ▸ alike_fill (congrArg Entry.shape found)
  · have there : Entry.isDirectory (tree.find? place) = true := congrArg Entry.isDirectory found
    rw [setMode_directory located there] at h
    exact Except.ok.inj h ▸ alike_put (congrArg Entry.shape found).symm
  · rw [setMode_item located (by rw [itemAt?, found])] at h
    exact Except.ok.inj h ▸ alike_fill (congrArg Entry.shape found)
  · rw [found] at unlinked
    cases unlinked

/-- A file or a symbolic link takes any place that is no directory and no name of the same file. -/
theorem moveFile_eq {entry : Entry} (sought : tree.seek source = .ok origin)
    (found : tree.find? origin = some entry) (file : Entry.isDirectory (some entry) = false)
    (arrives : tree.seek target = .ok place)
    (free : Entry.isDirectory (tree.find? place) = false)
    (apart : tree.isSameFile origin place = false) :
    tree.moveFile source target = .ok ((tree.put origin none).put place (some entry)) := by
  rw [moveFile, sought, arrives]
  rcases there : tree.find? place with _ | _ | _ | _ | _ <;> rw [there] at free <;>
    cases entry <;> simp_all [bind, Except.bind, Entry.isDirectory, pure, Except.pure]

/-- Where both are names of one file, nothing is moved, and the same shows by both. -/
theorem moveFile_same (sought : tree.seek source = .ok origin)
    (arrives : tree.seek target = .ok place) (same : tree.isSameFile origin place = true) :
    tree.moveFile source target = .ok tree ∧ tree.shows? origin = tree.shows? place := by
  unfold isSameFile at same
  split at same
  next number number' found found' =>
    obtain rfl := beq_iff_eq.1 same
    constructor
    · rw [moveFile, sought, arrives]
      simp [bind, Except.bind, found, found', isSameFile, pure, Except.pure]
    · rw [shows?, shows?, found, found']
  next => cases same

/-- Nothing takes the place of a directory. -/
theorem free_of_moveFile (sought : tree.seek source = .ok origin)
    (arrives : tree.seek target = .ok place) (h : tree.moveFile source target = .ok after) :
    Entry.isDirectory (tree.find? place) = false := by
  rw [moveFile, sought, arrives] at h
  rcases there : tree.find? place with _ | _ | _ | _ | _
  · rfl
  · rfl
  · rcases held : tree.find? origin with _ | _ | _ | _ | _ <;>
      simp only [bind, Except.bind, there, held] at h <;> cases h
  · rfl
  · rfl

/-- What moving a file or a link to another name in its directory leaves. A way that does without
what was by either name is left alone. -/
theorem moved_beside {entry : Entry} {name : String} {directory : Place} (ne : name ≠ part)
    (there : Entry.isDirectory (tree.find? directory) = true)
    (found : tree.find? (part :: directory) = some entry)
    (file : Entry.isDirectory (some entry) = false)
    (free : Entry.isDirectory (tree.find? (name :: directory)) = false) :
    let after := (tree.put (part :: directory) none).put (name :: directory) (some entry)
    after.find? (name :: directory) = some entry ∧ after.find? (part :: directory) = none ∧
      ∀ path place, ((tree.put (name :: directory) none).put (part :: directory) none).seek path =
        .ok place → after.seek path = .ok place := by
  have apart : name :: directory ≠ part :: directory := fun same => ne (List.cons.inj same).1
  -- the move in three steps: what was by the new name goes, then what is moved, which is put there
  have kind : Entry.isDirectory none = Entry.isDirectory (tree.find? (name :: directory)) :=
    free.symm
  have kind' : Entry.isDirectory none =
      Entry.isDirectory ((tree.put (name :: directory) none).find? (part :: directory)) := by
    rw [(find?_put kind).1 apart.symm, found]
    exact file.symm
  have within : Entry.isDirectory ((tree.put (name :: directory) none).find? directory) = true :=
    (find?_put kind).2.trans there
  have empty : ((tree.put (name :: directory) none).put (part :: directory) none).find?
      (name :: directory) = none := by
    rw [(find?_put kind').1 apart]
    exact find?_put_self there kind
  have fits : Entry.isDirectory (some entry) = Entry.isDirectory
      (((tree.put (name :: directory) none).put (part :: directory) none).find?
        (name :: directory)) := by
    rw [empty]
    exact file
  rw [← put_put _ (name :: directory) none (some entry), put_comm tree apart.symm]
  refine ⟨find?_put_self ((find?_put kind').2.trans within) fits, ?_, fun path place sought => ?_⟩
  · rw [(find?_put fits).1 apart.symm]
    exact find?_put_self within kind'
  · exact seek_put_of_absent empty file sought

theorem isSameFile_of_single (apart : ∀ number, tree.find? place = some (.name number) →
    tree.find? other ≠ some (.name number)) : tree.isSameFile place other = false := by
  unfold isSameFile
  split
  next number number' found found' =>
    exact beq_eq_false_iff_ne.2 fun same => apart number found (same ▸ found')
  next => rfl

/-- Two names in one path are sought in one directory. -/
theorem seek_beside {name : String} (some_text : path.text ≠ "") (isName : IsName part)
    (isName' : IsName name) (sought : tree.seek (path.join part) = .ok place) :
    ∃ directory, Entry.isDirectory (tree.find? directory) = true ∧ place = part :: directory ∧
      tree.seek (path.join name) = .ok (name :: directory) := by
  obtain ⟨directory, located, there, same⟩ := (seek_join_eq_ok_iff some_text isName).1 sought
  exact ⟨directory, there, same,
    (seek_join_eq_ok_iff some_text isName').2 ⟨directory, located, there, rfl⟩⟩

end FileTree
end InteractiveMobs
