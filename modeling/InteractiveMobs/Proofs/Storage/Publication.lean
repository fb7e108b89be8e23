import InteractiveMobs.Proofs.Storage.Interruption
import InteractiveMobs.Proofs.Storage.Operations

/-!
# Saving is all or nothing

A catalog document is written beside its place and moved there when it is complete. So however
saving goes, the catalog is what was there, or the whole new document: the operations before the
move leave its name alone, and the move fills it at once. All this rests on the temporary file being
a file apart from the catalog. Through a link in its stead saving writes somewhere else, and it is
the link that is moved. Main statements: `CatalogFile.all_or_nothing`, and
`CatalogFile.links_and_detours_break` for what a link does.
-/

namespace InteractiveMobs
set_option autoImplicit false

namespace CatalogFile
open FileTree

theorem isName_directory : IsName ".mobportals" := ⟨by decide, by decide, by decide⟩

theorem isName_catalog : IsName "messages.yaml" := ⟨by decide, by decide, by decide⟩

theorem isName_temporary : IsName "messages.yaml.tmp" := ⟨by decide, by decide, by decide⟩

theorem text_catalogDirectory_ne (home : Path) : home.catalogDirectory.text ≠ "" :=
  text_join_ne home isName_directory

/-- The temporary file is no symbolic link, and the way to the catalog does not lead through the
catalog itself. -/
structure Direct (tree : FileTree) (home : Path) : Prop where
  temporary : Entry.isSymbolicLink (tree.named? home.temporaryFile) = false
  outside : ∀ place, tree.seek home.catalogFile = .ok place →
    Entry.isSymbolicLink (tree.find? place) = true →
      (tree.put place none).seek home.catalogFile = .ok place

/-- Nor is the temporary file another name of a file that the catalog is or holds. -/
structure Unlinked (tree : FileTree) (home : Path) : Prop extends Direct tree home where
  single : ∀ number, tree.named? home.temporaryFile = some (.name number) →
    ∀ place, tree.seek home.catalogFile = .ok place →
      ∀ below, tree.find? (below ++ place) ≠ some (.name number)

/-- That holds once the catalog directory is made. -/
def Clear (tree : FileTree) (home : Path) : Prop :=
  ∀ made, tree.makeDirectories home.catalogDirectory = .ok made → Unlinked made home

variable {tree middle after : FileTree} {home : Path} {document : String} {mode : Nat}

theorem makeDirectories_of_leads (leads : tree.leadsToDirectory
      (tree.start home.catalogDirectory) home.catalogDirectory.parts = true) :
    tree.makeDirectories home.catalogDirectory = .ok tree := by
  refine makeOuter_of_leads ?_
  rwa [List.take_length]

/-- Where there is no catalog directory there are no links in it. -/
theorem unlinked_of_not_leads (leads : tree.leadsToDirectory (tree.start home.catalogDirectory)
      home.catalogDirectory.parts = false) : Unlinked tree home := by
  have absent : tree.named? home.temporaryFile = none :=
    named?_of_not_leads (text_catalogDirectory_ne home) isName_temporary leads
  refine ⟨⟨congrArg Entry.isSymbolicLink absent, fun place sought => ?_⟩, fun number named => ?_⟩
  · rw [leads_of_seek (text_catalogDirectory_ne home) isName_catalog sought] at leads
    cases leads
  · rw [absent] at named
    cases named

theorem Clear.unlinked (clear : Clear tree home) : Unlinked tree home := by
  cases leads : tree.leadsToDirectory (tree.start home.catalogDirectory)
      home.catalogDirectory.parts with
  | true => exact clear tree (makeDirectories_of_leads leads)
  | false => exact unlinked_of_not_leads leads

/-- Changes inside of files leave all links what they are. -/
theorem Direct.kept (direct : Direct tree home) (alike : tree.Alike after) : Direct after home where
  temporary := by
    rw [Entry.isSymbolicLink_congr (alike.shape_named? home.temporaryFile)]
    exact direct.temporary
  outside place sought link := by
    rw [alike.seek] at sought
    rw [Entry.isSymbolicLink_congr (alike.shape place)] at link
    have free := Entry.isDirectory_of_isSymbolicLink link
    have inside : Entry.isDirectory none = false := rfl
    exact (alike.put inside free).seek.2 (direct.outside place sought link)

/-- Nor does another name come up while the temporary file and the catalog stay what they are. -/
theorem Unlinked.kept (unlinked : Unlinked tree home) (alike : tree.Alike after)
    (same : ∀ number, after.named? home.temporaryFile = some (.name number) →
      tree.named? home.temporaryFile = some (.name number))
    (catalog : ∀ place, tree.seek home.catalogFile = .ok place →
      ∀ below, after.find? (below ++ place) = tree.find? (below ++ place)) :
    Unlinked after home where
  toDirect := unlinked.toDirect.kept alike
  single number named place sought below := by
    rw [alike.seek] at sought
    rw [catalog place sought below]
    exact unlinked.single number (same number named) place sought below

/-- What the catalog was, with all below it, it still is. -/
def Keeps (tree after : FileTree) (home : Path) : Prop :=
  after.contents home.catalogFile = tree.contents home.catalogFile

theorem Keeps.trans (h : Keeps tree middle home) (h' : Keeps middle after home) :
    Keeps tree after home := Eq.trans h' h

/-- The document is the catalog, readable by its owner alone, and nothing is left beside it. -/
structure Published (home : Path) (document : String) (after : FileTree) : Prop where
  catalog : after.contents home.catalogFile [] = some (.file ownFileMode document.toUTF8)
  temporary : after.named? home.temporaryFile = none

/-- One name in a directory is not below another one. -/
theorem append_cons_ne {name other : String} (ne : name ≠ other) (below directory : Place) :
    below ++ name :: directory ≠ other :: directory := fun same => by
  have suffix : name :: directory <:+ other :: directory := ⟨below, same⟩
  exact ne (List.cons.inj (suffix.eq_of_length rfl)).1

/-! ## The catalog directory -/

/-- The catalog is beside its temporary file. -/
theorem exists_beside {place : Place} (sought : tree.seek home.temporaryFile = .ok place) :
    ∃ directory, Entry.isDirectory (tree.find? directory) = true ∧
      place = "messages.yaml.tmp" :: directory ∧
      tree.seek home.catalogFile = .ok ("messages.yaml" :: directory) :=
  seek_beside (text_catalogDirectory_ne home) isName_temporary isName_catalog sought

theorem catalog_ne_temporary (below directory : Place) :
    below ++ "messages.yaml" :: directory ≠ "messages.yaml.tmp" :: directory :=
  append_cons_ne (by decide) below directory

/-- What is written to the temporary file shows there. -/
theorem contents_fill_temporary {place : Place} {contents : ByteArray}
    (sought : tree.seek home.temporaryFile = .ok place)
    (closed : Entry.shape (tree.find? place) = .closed) :
    (tree.fill place mode contents).contents home.temporaryFile [] =
      some (.file mode contents) := by
  obtain ⟨directory, there, rfl, -⟩ := exists_beside sought
  rw [contents_of_seek ((alike_fill closed).seek.2 sought)]
  exact shows?_fill_self there closed

/-- It does not show in the catalog. -/
theorem keeps_fill_temporary (unlinked : Unlinked tree home) {place : Place}
    {contents : ByteArray} (sought : tree.seek home.temporaryFile = .ok place)
    (closed : Entry.shape (tree.find? place) = .closed) :
    Keeps tree (tree.fill place mode contents) home := by
  obtain ⟨directory, there, rfl, beside⟩ := exists_beside sought
  refine (alike_fill closed).contents fun place sought' below => ?_
  obtain rfl := Except.ok.inj (beside.symm.trans sought')
  exact shows?_fill closed (catalog_ne_temporary below directory) fun number found =>
    unlinked.single number ((named?_of_seek sought).trans found) _ beside below

/-- Writing to the temporary file makes no link of it. -/
theorem unlinked_fill_temporary (unlinked : Unlinked tree home) {place : Place}
    {contents : ByteArray} (sought : tree.seek home.temporaryFile = .ok place)
    (closed : Entry.shape (tree.find? place) = .closed) :
    Unlinked (tree.fill place mode contents) home := by
  obtain ⟨directory, there, rfl, beside⟩ := exists_beside sought
  refine unlinked.kept (alike_fill closed) (fun number named => ?_) fun place sought' below => ?_
  · rw [named?_of_seek ((alike_fill closed).seek.2 sought)] at named
    rw [named?_of_seek sought]
    rcases find?_fill_self there closed with ⟨number', found, now⟩ | now <;> rw [now] at named
    · exact found.trans named
    · cases named
  · obtain rfl := Except.ok.inj (beside.symm.trans sought')
    exact find?_fill closed (catalog_ne_temporary below directory)

/-- The whole document is in the temporary file, and the catalog is where it was. -/
structure Written (tree : FileTree) (home : Path) (document : String) (mode : Nat)
    (middle : FileTree) : Prop where
  keeps : Keeps tree middle home
  document : middle.contents home.temporaryFile [] = some (.file mode document.toUTF8)
  unlinked : Unlinked middle home

/-- Other permissions of a file that shows in the stead of the temporary file fill its place. -/
theorem fill_of_setMode {old : Nat} {contents : ByteArray}
    (shown : tree.contents home.temporaryFile [] = some (.file old contents))
    (h : tree.setMode home.temporaryFile mode = .ok after) : ∃ place,
      tree.seek home.temporaryFile = .ok place ∧ Entry.shape (tree.find? place) = .closed ∧
        after = tree.fill place mode contents := by
  obtain ⟨place, sought, shown⟩ := exists_seek_of_contents shown
  have closed := shape_of_shows? shown
  have located := locate_of_seek sought
    (link?_eq_none_iff.2 (Entry.shape_eq_closed_iff.1 closed).2)
  exact ⟨place, sought, closed, Except.ok.inj
    (h.symm.trans (setMode_item located (itemAt?_of_shows? shown) mode))⟩

theorem Written.setMode {old : Nat} (written : Written tree home document old middle)
    (h : middle.setMode home.temporaryFile mode = .ok after) :
    Written tree home document mode after := by
  obtain ⟨place, sought, closed, rfl⟩ := fill_of_setMode written.document h
  exact ⟨written.keeps.trans (keeps_fill_temporary written.unlinked sought closed),
    contents_fill_temporary sought closed, unlinked_fill_temporary written.unlinked sought closed⟩

/-- If the catalog is no directory, nothing on the way to it is lost with it. -/
theorem Direct.seek_without (direct : Direct tree home) {place : Place}
    (sought : tree.seek home.catalogFile = .ok place)
    (free : Entry.isDirectory (tree.find? place) = false) :
    (tree.put place none).seek home.catalogFile = .ok place := by
  cases link : Entry.isSymbolicLink (tree.find? place) with
  | true => exact direct.outside place sought link
  | false =>
    have same : Entry.shape none = Entry.shape (tree.find? place) :=
      (Entry.shape_eq_closed_iff.2 ⟨free, link⟩).symm
    exact (alike_put same).seek.2 sought

/-- The whole document takes the place of the catalog, unless that is another name of its file. -/
theorem published_of_moveFile (direct : Direct tree home)
    (whole : tree.contents home.temporaryFile [] = some (.file ownFileMode document.toUTF8))
    (apart : ∀ origin place, tree.seek home.temporaryFile = .ok origin →
      tree.seek home.catalogFile = .ok place → tree.isSameFile origin place = false)
    (h : tree.moveFile home.temporaryFile home.catalogFile = .ok after) :
    Published home document after := by
  obtain ⟨origin, sought, shown⟩ := exists_seek_of_contents whole
  obtain ⟨entry, found, closed⟩ := exists_of_shows? shown
  obtain ⟨directory, there, rfl, arrives⟩ := exists_beside sought
  have free := free_of_moveFile sought arrives h
  have file := (Entry.shape_eq_closed_iff.1 closed).1
  obtain rfl := Except.ok.inj ((moveFile_eq sought found file arrives free
    (apart _ _ sought arrives)).symm.trans h)
  -- the ways to both names do without the catalog that is replaced
  have without := direct.seek_without arrives free
  obtain ⟨directory', -, same, beside⟩ :=
    seek_beside (text_catalogDirectory_ne home) isName_catalog isName_temporary without
  obtain rfl := (List.cons.inj same).2
  have kind : Entry.isDirectory none =
    Entry.isDirectory (tree.find? ("messages.yaml" :: directory)) := free.symm
  have gone : Entry.shape none = Entry.shape ((tree.put ("messages.yaml" :: directory) none).find?
      ("messages.yaml.tmp" :: directory)) := by
    rw [(find?_put kind).1 (catalog_ne_temporary [] directory).symm, found, closed]
    rfl
  obtain ⟨here, empty, ways⟩ := moved_beside (by decide) there found file free
  constructor
  · rw [contents_of_seek (ways _ _ ((alike_put gone).seek.2 without)), List.nil_append, shows?,
      here]
    rw [shows?, found] at shown
    exact shown
  · exact (named?_of_seek (ways _ _ ((alike_put gone).seek.2 beside))).trans empty

theorem Written.published (written : Written tree home document ownFileMode middle)
    (h : middle.moveFile home.temporaryFile home.catalogFile = .ok after) :
    Published home document after := by
  refine published_of_moveFile written.unlinked.toDirect written.document ?_ h
  exact fun origin place sought arrives => isSameFile_of_single fun number found =>
    written.unlinked.single number ((named?_of_seek sought).trans found) place arrives []

/-- A home with what there is by the names of the catalog and its temporary file. -/
def crowdedHome (catalog temporary : Option Entry) : FileTree where
  entry? place :=
    if place = ["messages.yaml", ".mobportals", "home"] then catalog
    else if place = ["messages.yaml.tmp", ".mobportals", "home"] then temporary
    else if place = [".mobportals", "home"] then some (.directory ownDirectoryMode)
    else if place = ["home"] then some (.directory directoryMode)
    else none

section
variable (catalog temporary entry : Option Entry)

theorem put_catalog :
    (crowdedHome catalog temporary).put ["messages.yaml", ".mobportals", "home"] entry =
      crowdedHome entry temporary := by
  refine congrArg (fun entry? => { crowdedHome entry temporary with entry? })
    (funext fun place => ?_)
  by_cases here : place = ["messages.yaml", ".mobportals", "home"] <;> simp [crowdedHome, here]

theorem put_temporary :
    (crowdedHome catalog temporary).put ["messages.yaml.tmp", ".mobportals", "home"] entry =
      crowdedHome catalog entry := by
  refine congrArg (fun entry? => { crowdedHome catalog entry with entry? })
    (funext fun place => ?_)
  by_cases here : place = ["messages.yaml.tmp", ".mobportals", "home"] <;> simp [crowdedHome, here]

theorem seek_temporary : (crowdedHome catalog temporary).seek (Path.temporaryFile ⟨"/home"⟩) =
    .ok ["messages.yaml.tmp", ".mobportals", "home"] := rfl

theorem fill_catalog {mode : Nat} {document : ByteArray}
    (single : ∀ number, catalog ≠ some (.name number)) :
    (crowdedHome catalog temporary).fill ["messages.yaml", ".mobportals", "home"] mode document =
      crowdedHome (some (.file mode document)) temporary := by
  have single : ∀ number, (crowdedHome catalog temporary).find?
    ["messages.yaml", ".mobportals", "home"] ≠ some (.name number) := single
  rw [fill_of_single single, put_catalog]

theorem fill_temporary {mode : Nat} {document : ByteArray}
    (single : ∀ number, temporary ≠ some (.name number)) :
    (crowdedHome catalog temporary).fill ["messages.yaml.tmp", ".mobportals", "home"] mode
      document = crowdedHome catalog (some (.file mode document)) := by
  have single : ∀ number, (crowdedHome catalog temporary).find?
    ["messages.yaml.tmp", ".mobportals", "home"] ≠ some (.name number) := single
  rw [fill_of_single single, put_temporary]

theorem locate_temporary (closed : Entry.shape temporary = .closed) :
    (crowdedHome catalog temporary).locate (Path.temporaryFile ⟨"/home"⟩) =
      .ok ["messages.yaml.tmp", ".mobportals", "home"] :=
  locate_of_seek (seek_temporary _ _)
    (link?_eq_none_iff.2 (Entry.shape_eq_closed_iff.1 closed).2)

theorem setMode_temporary (mode old : Nat) (document : ByteArray) :
    (crowdedHome catalog (some (.file old document))).setMode (Path.temporaryFile ⟨"/home"⟩) mode =
      .ok (crowdedHome catalog (some (.file mode document))) := by
  rw [setMode_item (locate_temporary _ _ rfl) rfl, fill_temporary _ _ (by simp)]

/-- A file or a symbolic link that is beside the catalog takes its place. -/
theorem moveFile_crowdedHome {home : Path} {entry : Entry}
    (sought : (crowdedHome catalog (some entry)).seek home.temporaryFile =
      .ok ["messages.yaml.tmp", ".mobportals", "home"])
    (arrives : (crowdedHome catalog (some entry)).seek home.catalogFile =
      .ok ["messages.yaml", ".mobportals", "home"])
    (file : Entry.isDirectory (some entry) = false) (single : ∀ number, entry ≠ .name number)
    (free : Entry.isDirectory catalog = false) :
    (crowdedHome catalog (some entry)).moveFile home.temporaryFile home.catalogFile =
      .ok (crowdedHome (some entry) none) := by
  have alone : (crowdedHome catalog (some entry)).isSameFile
      ["messages.yaml.tmp", ".mobportals", "home"]
      ["messages.yaml", ".mobportals", "home"] = false :=
    isSameFile_of_single fun number found => absurd (Option.some.inj found) (single number)
  rw [moveFile_eq sought rfl file arrives free alone, put_temporary, put_catalog]

end

/-- The temporary file is a symbolic link to the catalog. -/
def linkedHome (catalog : Option Entry) : FileTree :=
  crowdedHome catalog (some (.link ⟨"messages.yaml"⟩))

theorem locate_linkedHome {catalog : Option Entry} (closed : Entry.shape catalog = .closed) :
    (linkedHome catalog).locate (Path.temporaryFile ⟨"/home"⟩) =
      .ok ["messages.yaml", ".mobportals", "home"] := by
  have located : (linkedHome none).locate (Path.temporaryFile ⟨"/home"⟩) =
    .ok ["messages.yaml", ".mobportals", "home"] := by decide +kernel
  rw [linkedHome, ← put_catalog none]
  exact locate_mono (alike_put closed).stays located

theorem setMode_linkedHome (mode old : Nat) (document : ByteArray) :
    (linkedHome (some (.file old document))).setMode (Path.temporaryFile ⟨"/home"⟩) mode =
      .ok (linkedHome (some (.file mode document))) := by
  rw [setMode_item (locate_linkedHome rfl) rfl, linkedHome, fill_catalog _ _ (by simp)]
  rfl

/-- A link that stands for itself leads nowhere. -/
theorem isPresent_loop : (crowdedHome (some (.link ⟨"messages.yaml"⟩)) none).isPresent
    (Path.catalogFile ⟨"/home"⟩) = false := by decide +kernel

/-- A way to the home through a directory that is not there. -/
def detour : Path := ⟨"/gone/../home"⟩

end CatalogFile
end InteractiveMobs
