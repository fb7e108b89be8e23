import InteractiveMobs.Proofs.Storage.Publication

/-!
# Tasks that nothing goes wrong with

Where no change that a script asks for is refused, `Script.run` is all there is to say of it.
`Task.Gives` says what a task gives and leaves then. It has one rule for each operation, like
`Task.Ensures`, but here a task knows its result, and why it fails if it does: a failure of its own
is not one of the file system. Loading gives the catalog that the file holds, and fails for want of
a catalog where there is no file; a document put in the place of the catalog is there afterwards.
-/

namespace InteractiveMobs
set_option autoImplicit false

/-- Every change that carrying the script out asks for is made. -/
inductive Script.Unrefused {α : Type} : Script α → FileTree → Prop where
  | done {result : α} {tree : FileTree} : Unrefused (.done result) tree
  | looked {path : Path} {next : Bool → Script α} {tree : FileTree}
    (on : Unrefused (next (tree.isPresent path)) tree) : Unrefused (.isPresent path next) tree
  | read {path : Path} {next : Except FileError ByteArray → Script α} {tree : FileTree}
    (on : Unrefused (next (tree.read path)) tree) : Unrefused (.read path next) tree
  | changed {change : Change} {next : Except FileError Unit → Script α} {tree middle : FileTree}
    (made : change.apply tree = .ok middle) (on : Unrefused (next (.ok ())) middle) :
    Unrefused (.change change next) tree
  | log {event : Log.Event} {next : Script α} {tree : FileTree} (on : Unrefused next tree) :
    Unrefused (.log event next) tree

/-- A script of two parts goes through if each part does. -/
theorem Script.unrefused_bind {α β : Type} {script : Script α} {next : α → Script β}
    {tree : FileTree} : (script.bind next).Unrefused tree ↔ script.Unrefused tree ∧
      (next (script.run tree).result).Unrefused (script.run tree).tree := by
  induction script generalizing tree with
  | done result => exact ⟨fun on => ⟨.done, on⟩, fun both => both.2⟩
  | isPresent path rest ih =>
    constructor
    · intro whole
      cases whole with
      | looked on => exact ⟨.looked ((ih _).1 on).1, ((ih _).1 on).2⟩
    · rintro ⟨first, second⟩
      cases first with
      | looked first => exact .looked ((ih _).2 ⟨first, second⟩)
  | read path rest ih =>
    constructor
    · intro whole
      cases whole with
      | read on => exact ⟨.read ((ih _).1 on).1, ((ih _).1 on).2⟩
    · rintro ⟨first, second⟩
      cases first with
      | read first => exact .read ((ih _).2 ⟨first, second⟩)
  | change c rest ih =>
    constructor
    · intro whole
      cases whole with
      | changed made on =>
        obtain ⟨first, second⟩ := (ih _).1 on
        refine ⟨.changed made first, ?_⟩
        rwa [run, made]
    · rintro ⟨first, second⟩
      cases first with
      | changed made first =>
        rw [run, made] at second
        exact .changed made ((ih _).2 ⟨first, second⟩)
  | log event rest ih =>
    constructor
    · intro whole
      cases whole with
      | log on => exact ⟨.log (ih.1 on).1, (ih.1 on).2⟩
    · rintro ⟨first, second⟩
      cases first with
      | log first => exact .log (ih.2 ⟨first, second⟩)

/-- If none of its changes is refused, the script ends with a right result and a right tree. -/
def Script.Gives {α : Type} (script : Script α) (tree : FileTree) (right : α → FileTree → Prop) :
    Prop := script.Unrefused tree → right (script.run tree).result (script.run tree).tree

theorem Script.gives_bind {α β : Type} {script : Script α} {next : α → Script β} {tree : FileTree}
    {right : β → FileTree → Prop} (middle : α → FileTree → Prop) (first : script.Gives tree middle)
    (later : ∀ value after, middle value after → (next value).Gives after right) :
    (script.bind next).Gives tree right := by
  intro unrefused
  obtain ⟨begun, rest⟩ := unrefused_bind.1 unrefused
  have reached := later _ _ (first begun) rest
  rw [run_bind]
  exact reached

/-- A failure and a result, each with a tree that is right for it. -/
def Task.Ends {α : Type} (failed : CatalogError → FileTree → Prop) (done : α → FileTree → Prop) :
    Except CatalogError α → FileTree → Prop
  | .error error, after => failed error after
  | .ok value, after => done value after

/-- If none of its changes is refused, a task leaves a tree that is right for its end. -/
def Task.Gives {α : Type} (task : Task α) (tree : FileTree)
    (failed : CatalogError → FileTree → Prop) (done : α → FileTree → Prop) : Prop :=
  Script.Gives task.run tree (Ends failed done)

namespace Task
variable {α β : Type} {tree : FileTree} {failed : CatalogError → FileTree → Prop}
  {done : α → FileTree → Prop}

theorem gives_pure {value : α} (here : done value tree) : Gives (pure value) tree failed done :=
  fun _ => here

theorem gives_throw {error : CatalogError} (here : failed error tree) :
    Gives (throw error) tree failed done := fun _ => here

/-- A task of two parts ends in the first if that fails. -/
theorem gives_bind {task : Task β} {next : β → Task α} (middle : β → FileTree → Prop)
    (first : task.Gives tree failed middle)
    (later : ∀ value after, middle value after → (next value).Gives after failed done) :
    Gives (task >>= next) tree failed done := by
  refine Script.gives_bind (Ends failed middle) first fun result after reached => ?_
  cases result with
  | error error => exact fun _ => reached
  | ok value => exact later value after reached

/-- A failure is handled where it occurs. -/
theorem gives_tryCatch {task : Task α} {handler : CatalogError → Task α}
    (caught : CatalogError → FileTree → Prop) (first : task.Gives tree caught done)
    (handled : ∀ error after, caught error after → (handler error).Gives after failed done) :
    Gives (tryCatch task handler) tree failed done := by
  refine Script.gives_bind (Ends caught done) first fun result after reached => ?_
  cases result with
  | error error => exact handled error after reached
  | ok value => exact fun _ => reached

theorem unrefused_bind {task : Task β} {next : β → Task α} (first : Script.Unrefused task.run tree)
    (later : ∀ value after, Script.Unrefused (next value).run after) :
    Script.Unrefused (task >>= next).run tree := by
  refine Script.unrefused_bind.2 ⟨first, ?_⟩
  rcases (Script.run task tree).result with error | value
  · exact .done
  · exact later value _

/-- What is right for either end is right for the script. -/
theorem Gives.script {task : Task α} {right : Except CatalogError α → FileTree → Prop}
    (h : task.Gives tree (fun error => right (.error error)) fun value => right (.ok value)) :
    Script.Gives task.run tree right := by
  intro unrefused
  have ended := h unrefused
  cases result : (Script.run task.run tree).result <;> rwa [result] at ended

end Task

namespace CatalogFile
open FileTree

variable {tree : FileTree} {home path : Path} {document : String} {config : Config}
  {failed : CatalogError → FileTree → Prop}

/-! ## Operations -/

theorem gives_isPresent {done : Bool → FileTree → Prop} (here : done (tree.isPresent path) tree) :
    (isPresent path).Gives tree failed done := fun _ => here

theorem gives_perform {change : Change} {done : Unit → FileTree → Prop}
    (made : ∀ after, change.apply tree = .ok after → done () after) :
    (perform change).Gives tree failed done := by
  intro unrefused
  cases unrefused with
  | changed applied _ =>
    rw [perform, ExceptT.run_mk, Script.run, applied]
    exact made _ applied

theorem gives_tell {event : Log.Event} {done : Unit → FileTree → Prop} (here : done () tree) :
    (tell event).Gives tree failed done := fun _ => here

/-- A text is read back from its octets. -/
theorem fromUTF8?_toUTF8 (text : String) : String.fromUTF8? text.toUTF8 = some text := by
  rw [String.fromUTF8?, String.toUTF8_eq_toByteArray, dif_pos text.isValidUTF8]
  rfl

theorem gives_readText {text : String} {done : String → FileTree → Prop}
    (found : tree.read path = .ok text.toUTF8) (here : done text tree) :
    (readText path).Gives tree failed done := by
  have bytes : (readBytes path).Gives tree failed fun bytes after =>
      bytes = text.toUTF8 ∧ tree = after := by
    intro _
    rw [readBytes, ExceptT.run_mk, Script.run, found]
    exact ⟨rfl, rfl⟩
  refine Task.gives_bind _ bytes ?_
  rintro _ _ ⟨rfl, rfl⟩
  rw [fromUTF8?_toUTF8]
  exact Task.gives_pure here

/-! ## Loading -/

theorem read_of_item? {mode : Nat} {contents : ByteArray}
    (there : tree.item? path = some (.file mode contents)) : tree.read path = .ok contents := by
  unfold item? at there
  unfold FileTree.read
  cases located : tree.locate path with
  | error error =>
    rw [located] at there
    cases there
  | ok place =>
    rw [located] at there
    simp only [bind, Except.bind, there]
    rfl

theorem isPresent_of_read {contents : ByteArray} (found : tree.read path = .ok contents) :
    tree.isPresent path = true := by
  unfold FileTree.read at found
  unfold FileTree.isPresent item?
  cases located : tree.locate path with
  | error error =>
    rw [located] at found
    cases found
  | ok place =>
    rw [located] at found
    simp only [bind, Except.bind] at found ⊢
    cases there : tree.itemAt? place with
    | none =>
      rw [there] at found
      cases found
    | some item => rfl

/-- The catalog that a home's file holds, or that there is none. -/
def Holds (tree : FileTree) (home : Path) : Option Config → Prop
  | none => tree.isPresent home.catalogFile = false
  | some config => ∃ document, Config.read document = .ok config ∧
      tree.item? home.catalogFile = some (.file ownFileMode document.toUTF8)

/-- A stored catalog as it is loaded. -/
def loaded (home : Path) : Option Config → Except CatalogError Config
  | none => .error (.catalogNotFound home.catalogFile)
  | some config => .ok config

theorem Holds.isPresent {cell : Option Config} (holds : Holds tree home cell) :
    tree.isPresent home.catalogFile = cell.isSome := by
  cases cell with
  | none => exact holds
  | some config =>
    obtain ⟨document, -, there⟩ := holds
    rw [FileTree.isPresent, there]
    rfl

variable {cell : Option Config} {done : Config → FileTree → Prop}

/-- A file whose text is read as a catalog is loaded as that catalog. -/
theorem gives_load_of_read (found : tree.read path = .ok document.toUTF8)
    (parsed : Config.read document = .ok config) (here : done config tree) :
    (load path).Gives tree failed done := by
  refine Task.gives_bind (fun present after => present = true ∧ tree = after)
    (gives_isPresent ⟨isPresent_of_read found, rfl⟩) ?_
  rintro _ _ ⟨rfl, rfl⟩
  refine Task.gives_bind (fun text after => text = document ∧ tree = after)
    (gives_readText found ⟨rfl, rfl⟩) ?_
  rintro _ _ ⟨rfl, rfl⟩
  rw [parsed]
  refine Task.gives_bind (fun _ after => tree = after) (gives_tell rfl) ?_
  rintro _ _ rfl
  exact Task.gives_pure here

theorem gives_load (holds : Holds tree home cell)
    (here : Task.Ends failed done (loaded home cell) tree) :
    (load home.catalogFile).Gives tree failed done := by
  cases cell with
  | some config =>
    obtain ⟨document, read, there⟩ := holds
    exact gives_load_of_read (read_of_item? there) read here
  | none =>
    refine Task.gives_bind (fun present after => present = false ∧ tree = after)
      (gives_isPresent ⟨holds, rfl⟩) ?_
    rintro _ _ ⟨rfl, rfl⟩
    exact Task.gives_bind (fun _ _ => False) (Task.gives_throw here) fun _ _ => False.elim

theorem gives_loadMerged (holds : Holds tree home cell)
    (here : Task.Ends failed done ((loaded home cell).map (·.layeredOver Defaults.config)) tree) :
    (loadMerged home).Gives tree failed done := by
  refine Task.gives_bind (fun config after => done (config.layeredOver Defaults.config) after)
    (gives_load holds ?_) fun config after there => Task.gives_pure there
  cases cell <;> exact here

theorem gives_loadOrDefault (holds : Holds tree home cell)
    (here : done ((cell.map (·.layeredOver Defaults.config)).getD Defaults.config) tree) :
    (loadOrDefault home).Gives tree failed done := by
  cases cell with
  | some config => exact Task.gives_tryCatch (fun _ _ => False) (gives_loadMerged holds here) nofun
  | none =>
    refine Task.gives_tryCatch
      (fun error after => error = .catalogNotFound home.catalogFile ∧ tree = after)
      (gives_loadMerged holds ⟨rfl, rfl⟩) ?_
    rintro _ _ ⟨rfl, rfl⟩
    refine Task.gives_bind (fun _ after => tree = after) (gives_tell rfl) ?_
    rintro _ _ rfl
    exact Task.gives_pure here

/-- Loading asks for no change that could be refused. -/
theorem unrefused_load (path : Path) (tree : FileTree) : Script.Unrefused (load path).run tree := by
  refine Task.unrefused_bind (.looked .done) fun found after => ?_
  cases found with
  | false => exact .done
  | true =>
    have text : Script.Unrefused (readText path).run after :=
      Task.unrefused_bind (.read .done) fun bytes _ => by split <;> exact .done
    refine Task.unrefused_bind text fun text _ => ?_
    split
    · exact Task.unrefused_bind (.log .done) fun _ _ => .done
    · exact .done

/-! ## Saving -/

/-- No symbolic link is in the way of saving once the catalog directory is made. -/
def Ready (tree : FileTree) (home : Path) : Prop :=
  ∀ made, tree.makeDirectories home.catalogDirectory = .ok made → Direct made home

theorem Ready.direct (ready : Ready tree home) : Direct tree home := by
  cases leads : tree.leadsToDirectory (tree.start home.catalogDirectory)
      home.catalogDirectory.parts with
  | true => exact ready tree (makeDirectories_of_leads leads)
  | false => exact (unlinked_of_not_leads leads).toDirect

theorem gives_ensureDirectory (ready : Ready tree home) {done : Unit → FileTree → Prop}
    (here : ∀ after, Direct after home → done () after) :
    (ensureDirectory home.catalogDirectory).Gives tree failed done := by
  refine Task.gives_bind (fun _ after => tree = after) (gives_isPresent rfl) ?_
  rintro found _ rfl
  cases found with
  | true => exact Task.gives_pure (here tree ready.direct)
  | false =>
    refine Task.gives_bind (fun _ made => Direct made home) (gives_perform ready)
      fun _ middle direct => gives_perform fun after set => ?_
    exact here after (direct.kept (alike_setMode set))

/-- The document is in the place of the catalog, with no link in the way of another one. -/
structure Stored (tree : FileTree) (home : Path) (document : String) : Prop where
  item? : tree.item? home.catalogFile = some (.file ownFileMode document.toUTF8)
  ready : Ready tree home

/-- What shows by the name of the catalog is found by whoever looks for it. -/
theorem stored_of_contents
    (whole : tree.contents home.catalogFile [] = some (.file ownFileMode document.toUTF8))
    (unlinked : Entry.isSymbolicLink (tree.named? home.temporaryFile) = false) :
    Stored tree home document := by
  obtain ⟨place, sought, shown⟩ := exists_seek_of_contents whole
  have file := (Entry.shape_eq_closed_iff.1 (shape_of_shows? shown)).2
  constructor
  · rw [FileTree.item?, locate_of_seek sought (link?_eq_none_iff.2 file)]
    exact itemAt?_of_shows? shown
  · intro made h
    rw [makeDirectories_of_leads
      (leads_of_seek (text_catalogDirectory_ne home) isName_catalog sought)] at h
    obtain rfl := Except.ok.inj h
    refine ⟨unlinked, fun place' sought' link => ?_⟩
    rw [Except.ok.inj (sought'.symm.trans sought), file] at link
    cases link

/-- It does not matter whether the catalog is another name of the file that was written. -/
theorem stored_of_moveFile (direct : Direct tree home)
    (whole : tree.contents home.temporaryFile [] = some (.file ownFileMode document.toUTF8))
    {after : FileTree} (h : tree.moveFile home.temporaryFile home.catalogFile = .ok after) :
    Stored after home document := by
  obtain ⟨origin, sought, shown⟩ := exists_seek_of_contents whole
  obtain ⟨directory, -, rfl, arrives⟩ := exists_beside sought
  cases same : tree.isSameFile ("messages.yaml.tmp" :: directory)
      ("messages.yaml" :: directory) with
  | true =>
    obtain ⟨still, shows⟩ := moveFile_same sought arrives same
    obtain rfl := Except.ok.inj (still.symm.trans h)
    refine stored_of_contents ?_ direct.temporary
    rw [contents_of_seek arrives]
    exact shows.symm.trans shown
  | false =>
    have published := published_of_moveFile direct whole (fun origin' place sought' arrives' => by
      rwa [← Except.ok.inj (sought.symm.trans sought'),
        ← Except.ok.inj (arrives.symm.trans arrives')]) h
    exact stored_of_contents published.catalog (congrArg Entry.isSymbolicLink published.temporary)

theorem gives_replace (direct : Direct tree home) {done : Unit → FileTree → Prop}
    (here : ∀ after, Stored after home document → done () after) :
    (replace home document).Gives tree failed done := by
  refine Task.gives_bind (fun _ middle => Direct middle home ∧ ∃ mode,
    middle.contents home.temporaryFile [] = some (.file mode document.toUTF8)) ?_ ?_
  · refine gives_perform fun after h => ?_
    obtain ⟨place, mode, located, closed, rfl⟩ := write_ok h
    have sought := seek_of_locate direct.temporary located
    exact ⟨direct.kept (alike_fill closed), mode, contents_fill_temporary sought closed⟩
  rintro _ middle ⟨direct, mode, whole⟩
  refine Task.gives_bind (fun _ middle => Direct middle home ∧
    middle.contents home.temporaryFile [] = some (.file ownFileMode document.toUTF8)) ?_ ?_
  · refine gives_perform fun after h => ?_
    obtain ⟨place, sought, closed, rfl⟩ := fill_of_setMode whole h
    exact ⟨direct.kept (alike_fill closed), contents_fill_temporary sought closed⟩
  rintro _ middle ⟨direct, whole⟩
  exact gives_perform fun after h => here after (stored_of_moveFile direct whole h)

theorem gives_save (ready : Ready tree home) {done : Unit → FileTree → Prop}
    (here : ∀ after, Stored after home config.write → done () after) :
    (save home config).Gives tree failed done := by
  refine Task.gives_bind (fun _ after => Direct after home)
    (gives_ensureDirectory ready fun _ => id) fun _ _ direct => ?_
  refine Task.gives_bind (fun _ after => Stored after home config.write)
    (gives_replace direct fun _ => id) fun _ after stored => ?_
  exact gives_tell (here after stored)

/-- Making the first catalog writes the document of the defaults where there is none. -/
theorem gives_init (holds : Holds tree home cell) (ready : Ready tree home)
    (loads : cell.isSome = true →
      Task.Ends failed done ((loaded home cell).map (·.layeredOver Defaults.config)) tree)
    (makes : cell = none → ∀ after, Stored after home Defaults.document →
      done Defaults.config after) :
    (init home).Gives tree failed done := by
  refine Task.gives_bind (fun found after => found = cell.isSome ∧ tree = after)
    (gives_isPresent ⟨holds.isPresent, rfl⟩) ?_
  rintro _ _ ⟨rfl, rfl⟩
  cases cell with
  | some config => exact gives_loadMerged holds (loads rfl)
  | none =>
    refine Task.gives_bind (fun _ after => Direct after home)
      (gives_ensureDirectory ready fun _ => id) fun _ _ direct => ?_
    refine Task.gives_bind (fun _ after => done Defaults.config after)
      (gives_replace direct (makes rfl)) fun _ after there => ?_
    exact Task.gives_pure there

end CatalogFile
end InteractiveMobs
