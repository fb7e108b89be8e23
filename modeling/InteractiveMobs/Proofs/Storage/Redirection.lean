import InteractiveMobs.Proofs.Storage.Publication

/-!
# Saving through a link

Writing a file and changing its permissions go through a symbolic link, and moving it does not. So
with a link in the stead of the temporary file the document goes where the link leads, and it is the
link that becomes the catalog. Saving may well report that all went well then. Main statement:
`CatalogFile.link_takes_place`.
-/

namespace InteractiveMobs
set_option autoImplicit false

namespace CatalogFile
open FileTree

variable {tree middle after : FileTree} {home target : Path} {document : String}

/-- The way to the catalog leads through neither the catalog nor the temporary file. -/
def Straight (tree : FileTree) (home : Path) : Prop :=
  ∀ directory, tree.locate home.catalogDirectory = .ok directory →
    ((tree.put ("messages.yaml" :: directory) none).put
      ("messages.yaml.tmp" :: directory) none).seek home.catalogFile =
        .ok ("messages.yaml" :: directory)

/-- The catalog is the symbolic link that was in the stead of the temporary file. -/
structure Relinked (home target : Path) (after : FileTree) : Prop where
  catalog : after.contents home.catalogFile [] = some (.link target)
  temporary : after.named? home.temporaryFile = none

theorem relinked_of_moveFile (straight : Straight tree home)
    (link : tree.named? home.temporaryFile = some (.link target)) (alike : tree.Alike middle)
    (h : middle.moveFile home.temporaryFile home.catalogFile = .ok after) :
    Relinked home target after := by
  obtain ⟨place, sought, found⟩ := exists_seek_of_named? link
  obtain ⟨directory, located, there, rfl⟩ :=
    (seek_join_eq_ok_iff (text_catalogDirectory_ne home) isName_temporary).1 sought
  have arrives : tree.seek home.catalogFile = .ok ("messages.yaml" :: directory) :=
    (seek_join_eq_ok_iff (text_catalogDirectory_ne home) isName_catalog).2
      ⟨directory, located, there, rfl⟩
  have free := free_of_moveFile (alike.seek.2 sought) (alike.seek.2 arrives) h
  -- the link is still there, and the way to the catalog does without both names
  have found' : middle.find? ("messages.yaml.tmp" :: directory) = some (.link target) :=
    Entry.eq_link_of_shape ((alike.shape _).trans (congrArg Entry.shape found))
  have alone : middle.isSameFile ("messages.yaml.tmp" :: directory) ("messages.yaml" :: directory) =
    false := isSameFile_of_single fun number name => by
      rw [found'] at name
      cases name
  obtain rfl := Except.ok.inj ((moveFile_eq (alike.seek.2 sought) found' rfl (alike.seek.2 arrives)
    free alone).symm.trans h)
  obtain ⟨here, empty, ways⟩ := moved_beside (by decide) ((alike.isDirectory _).trans there)
    found' rfl free
  have without := straight directory located
  obtain ⟨directory', -, same, beside⟩ :=
    seek_beside (text_catalogDirectory_ne home) isName_catalog isName_temporary without
  obtain rfl := (List.cons.inj same).2
  have nothing : Entry.isDirectory none = false := rfl
  have free : Entry.isDirectory (tree.find? ("messages.yaml" :: directory)) = false :=
    (alike.isDirectory _).symm.trans free
  have gone : Entry.isDirectory ((tree.put ("messages.yaml" :: directory) none).find?
      ("messages.yaml.tmp" :: directory)) = false := by
    rw [(find?_put (nothing.trans free.symm)).1 (catalog_ne_temporary [] directory).symm, found]
    rfl
  have same := (alike.put nothing free).put nothing gone
  constructor
  · rw [contents_of_seek (ways _ _ (same.seek.2 without)), List.nil_append, shows?, here]
  · exact (named?_of_seek (ways _ _ (same.seek.2 beside))).trans empty

/-- Whatever stands in the place of the temporary file, making sure of its directory and writing
through it leaves all ways as they are. -/
theorem ensures_ensureDirectory_alike (leads : tree.leadsToDirectory
      (tree.start home.catalogDirectory) home.catalogDirectory.parts = true) :
    (ensureDirectory home.catalogDirectory).Ensures tree (fun _ => True)
      fun _ after => tree.Alike after := by
  refine Task.ensures_bind (fun _ after => tree = after) (ensures_isPresent rfl rfl) ?_
  rintro found _ rfl
  split
  · exact Task.ensures_pure (Alike.refl tree)
  · refine Task.ensures_bind (fun _ made => tree = made) ?_ ?_
    · refine ensures_perform (fun _ _ => trivial) fun made h => ?_
      exact Except.ok.inj ((makeDirectories_of_leads leads).symm.trans h)
    · rintro _ _ rfl
      exact ensures_perform (fun _ _ => trivial) fun after h => alike_setMode h

theorem ensures_replace_link (straight : Straight tree home)
    (link : tree.named? home.temporaryFile = some (.link target)) (alike : tree.Alike middle) :
    (replace home document).Ensures middle (fun _ => True)
      fun _ after => Relinked home target after := by
  refine Task.ensures_bind (fun _ after => tree.Alike after) ?_ fun _ middle alike => ?_
  · exact ensures_perform (fun _ _ => trivial) fun after h => alike.trans (alike_write h)
  refine Task.ensures_bind (fun _ after => tree.Alike after) ?_ fun _ middle alike => ?_
  · exact ensures_perform (fun _ _ => trivial) fun after h => alike.trans (alike_setMode h)
  exact ensures_perform (fun _ _ => trivial) fun after h =>
    relinked_of_moveFile straight link alike h

/-- **A link takes the place of the catalog.** Let the temporary file be a symbolic link, wherever
it leads, and let the way to the catalog lead through neither of the two. Whenever saving ends well,
the catalog is that link then, and nothing is left beside it. -/
theorem link_takes_place {config : Config} (straight : Straight tree home)
    (link : tree.named? home.temporaryFile = some (.link target))
    (saved : Script.Leads (save home config).run tree (some (.ok ())) after) :
    Relinked home target after := by
  obtain ⟨place, sought, -⟩ := exists_seek_of_named? link
  have leads := leads_of_seek (text_catalogDirectory_ne home) isName_temporary sought
  have ensures : (save home config).Ensures tree (fun _ => True)
      fun _ after => Relinked home target after := by
    refine Task.ensures_bind (fun _ after => tree.Alike after)
      (ensures_ensureDirectory_alike leads) fun _ middle alike => ?_
    refine Task.ensures_bind (fun _ => Relinked home target)
      (ensures_replace_link straight link alike) fun _ after relinked => ?_
    exact ensures_tell relinked
  exact ensures _ _ saved

end CatalogFile
end InteractiveMobs
