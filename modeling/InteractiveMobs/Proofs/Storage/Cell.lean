import InteractiveMobs.Proofs.Catalog.DefaultDocument
import InteractiveMobs.Proofs.Storage.Completion

/-!
# The catalog file is a cell

As long as the file system does what it is asked for, the catalog of a home behaves like a cell that
is empty or holds one catalog. Saving fills the cell, making the first catalog fills it with the
defaults if it is empty, and loading looks at it. `CatalogFile.Holds` ties the file to the cell: the
document in the file is one that is read as the catalog in the cell, whoever wrote it. One use keeps
it (`CatalogFile.gives_use`), and so does a run of them, so every result is the cell's
(`CatalogFile.behaves_as_cell`). A symbolic link in the stead of the temporary file undoes it
(`CatalogFile.linkedHome_forgets`).
-/

namespace InteractiveMobs
set_option autoImplicit false

namespace CatalogFile
open FileTree

/-! ## Uses -/

/-- One use of the catalog of a home. -/
inductive Use where
  | init
  | save (config : Config)
  /-- Loads what the file holds. -/
  | load
  | loadMerged
  | loadOrDefault

namespace Use

/-- What a use asks of the file system. Only saving gives no catalog back. -/
def task (home : Path) : Use → Task (Option Config)
  | init => do return some (← CatalogFile.init home)
  | save config => do
    CatalogFile.save home config
    return none
  | load => do return some (← CatalogFile.load home.catalogFile)
  | loadMerged => do return some (← CatalogFile.loadMerged home)
  | loadOrDefault => do return some (← CatalogFile.loadOrDefault home)

/-- What a use carried out on a file tree gives, and the tree it leaves. -/
def run (home : Path) (tree : FileTree) (use : Use) :
    Finished (Except CatalogError (Option Config)) := (use.task home).run.run tree

/-- What a use gives, by the catalog in the cell. -/
def answer (home : Path) (cell : Option Config) : Use → Except CatalogError (Option Config)
  | save _ => .ok none
  | load => (loaded home cell).map some
  | loadMerged => (loaded home cell).map fun config => some (config.layeredOver Defaults.config)
  | init | loadOrDefault =>
    match cell with
    | none => .ok (some Defaults.config)
    | some config => .ok (some (config.layeredOver Defaults.config))

/-- What is in the cell after a use. -/
def next (cell : Option Config) : Use → Option Config
  | init => some (cell.getD Defaults.config)
  | save config => some config
  | load | loadMerged | loadOrDefault => cell

/-- Whether a use writes a document. -/
def writes (cell : Option Config) : Use → Bool
  | init => cell.isNone
  | save _ => true
  | load | loadMerged | loadOrDefault => false

end Use

/-- The tree that uses leave, one after the other. -/
def treeAfter (home : Path) : FileTree → List Use → FileTree :=
  List.foldl fun tree use => (use.run home tree).tree

/-- What uses leave in a cell. -/
def cellAfter : Option Config → List Use → Option Config := List.foldl Use.next

/-- Every change that the uses ask for is made. -/
def Undisturbed (home : Path) : FileTree → List Use → Prop
  | _, [] => True
  | tree, use :: rest =>
    (use.task home).run.Unrefused tree ∧ Undisturbed home (use.run home tree).tree rest

variable {home : Path} {tree : FileTree} {cell : Option Config} {config : Config}

theorem treeAfter_append (past rest : List Use) :
    treeAfter home tree (past ++ rest) = treeAfter home (treeAfter home tree past) rest :=
  List.foldl_append

theorem undisturbed_append {past rest : List Use} : Undisturbed home tree (past ++ rest) ↔
    Undisturbed home tree past ∧ Undisturbed home (treeAfter home tree past) rest := by
  induction past generalizing tree with
  | nil => exact (and_iff_right trivial).symm
  | cons use past ih => exact (and_congr_right fun _ => ih).trans and_assoc.symm

/-! ## One use -/

/-- A use goes as it does with a cell. -/
structure Use.Agrees (use : Use) (home : Path) (cell : Option Config) (tree : FileTree)
    (result : Except CatalogError (Option Config)) (after : FileTree) : Prop where
  answer : result = use.answer home cell
  holds : Holds after home (use.next cell)
  ready : Ready after home
  still : use.writes cell = false → after = tree
  first : use = .init → cell = none →
    after.item? home.catalogFile = some (.file ownFileMode Defaults.document.toUTF8)

/-- A use that only looks agrees if it gives the right catalog. -/
theorem Holds.agrees (holds : Holds tree home cell) (ready : Ready tree home) {use : Use}
    (looks : use.writes cell = false) (keeps : use.next cell = cell) :
    use.Agrees home cell tree (use.answer home cell) tree where
  answer := rfl
  holds := by rwa [keeps]
  ready := ready
  still _ := rfl
  first := by
    rintro rfl rfl
    cases looks

/-- A task goes on to give its catalog back. -/
theorem gives_some {task : Task Config}
    {right : Except CatalogError (Option Config) → FileTree → Prop}
    (h : task.Gives tree (fun error => right (.error error))
      fun config => right (.ok (some config))) :
    Script.Gives (do return some (← task) : Task (Option Config)).run tree right :=
  Task.Gives.script (Task.gives_bind _ h fun _ _ there => Task.gives_pure there)

/-- With a cell that stands for the file, every use gives what it gives with the cell, and the cell
stands for the file again. -/
theorem gives_use (holds : Holds tree home cell) (ready : Ready tree home) (use : Use) :
    Script.Gives (use.task home).run tree (use.Agrees home cell tree) := by
  cases use with
  | load =>
    refine gives_some (gives_load holds ?_)
    cases cell <;> exact holds.agrees ready rfl rfl
  | loadMerged =>
    refine gives_some (gives_loadMerged holds ?_)
    cases cell <;> exact holds.agrees ready rfl rfl
  | loadOrDefault =>
    refine gives_some (gives_loadOrDefault holds ?_)
    cases cell <;> exact holds.agrees ready rfl rfl
  | save config =>
    have read : Config.read config.write = .ok config := by
      obtain ⟨nodes, hold, document⟩ := Config.document_write config
      rw [Config.read_of_document hold document, Config.ofList_texts]
    refine Task.Gives.script (Task.gives_bind (fun _ after => Stored after home config.write)
      (gives_save ready fun _ => id) fun _ after stored => Task.gives_pure ?_)
    exact ⟨rfl, ⟨_, read, stored.item?⟩, stored.ready, nofun, nofun⟩
  | init =>
    refine gives_some (gives_init holds ready (fun filled => ?_) fun empty after stored => ?_)
    · obtain ⟨config, rfl⟩ := Option.isSome_iff_exists.1 filled
      exact holds.agrees ready rfl rfl
    · subst empty
      exact ⟨rfl, ⟨_, Defaults.read_document, stored.item?⟩, stored.ready, nofun,
      fun _ _ => stored.item?⟩

/-! ## Runs -/

/-- The cell stands for the file after any run. -/
theorem holds_after (holds : Holds tree home cell) (ready : Ready tree home) {uses : List Use}
    (undisturbed : Undisturbed home tree uses) :
    Holds (treeAfter home tree uses) home (cellAfter cell uses) ∧
      Ready (treeAfter home tree uses) home := by
  induction uses generalizing tree cell with
  | nil => exact ⟨holds, ready⟩
  | cons use rest ih =>
    have agrees := gives_use holds ready use undisturbed.1
    exact ih agrees.holds agrees.ready undisturbed.2

/-- A filled cell, and the file with it, changes by saving alone. -/
theorem still_of_not_save (holds : Holds tree home (some config)) (ready : Ready tree home)
    {uses : List Use} (undisturbed : Undisturbed home tree uses)
    (unsaved : ∀ config, Use.save config ∉ uses) :
    treeAfter home tree uses = tree := by
  induction uses with
  | nil => rfl
  | cons use rest ih =>
    have looks : use.writes (some config) = false := by
      cases use with
      | save other => exact absurd List.mem_cons_self (unsaved other)
      | _ => rfl
    have first : (use.run home tree).tree = tree :=
      (gives_use holds ready use undisturbed.1).still looks
    have later := undisturbed.2
    rw [first] at later
    show treeAfter home (use.run home tree).tree rest = tree
    rw [first]
    exact ih later fun other mem => unsaved other (List.mem_cons_of_mem use mem)

/-- Making the first catalog again gives the same one. -/
theorem answer_init_next (home : Path) (cell : Option Config) :
    Use.init.answer home (Use.init.next cell) = Use.init.answer home cell := by
  cases cell with
  | none => exact congrArg (Except.ok ∘ some) (Config.layeredOver_self Defaults.config)
  | some config => rfl

/-- However often the first catalog is made, with nothing saved in between, the file stays as it is
from the first time on, and the result is the same. -/
theorem init_again (holds : Holds tree home cell) (ready : Ready tree home) {middle : List Use}
    (undisturbed : Undisturbed home tree (.init :: middle ++ [.init]))
    (unsaved : ∀ config, Use.save config ∉ middle) :
    treeAfter home tree (.init :: middle ++ [.init]) = treeAfter home tree [.init] ∧
      (Use.init.run home (treeAfter home tree (.init :: middle))).result =
        (Use.init.run home tree).result := by
  have first := gives_use holds ready .init undisturbed.1
  obtain ⟨between, last, -⟩ := undisturbed_append.1 undisturbed.2
  have kept : treeAfter home tree (.init :: middle) = (Use.init.run home tree).tree :=
    still_of_not_save first.holds first.ready between unsaved
  have second := gives_use first.holds first.ready .init (kept ▸ last)
  constructor
  · refine still_of_not_save first.holds first.ready undisturbed.2 fun config mem => ?_
    exact unsaved config (by simpa using mem)
  · rw [kept]
    exact (second.answer.trans (answer_init_next home cell)).trans first.answer.symm

/-- **The catalog file is a cell.** Let a home start without a catalog and without a symbolic link
in the stead of its temporary file, and let every change that its uses ask for be made. Then each
use gives what it gives with a cell that is empty at first, is filled with the defaults by making
the first catalog, and holds what was saved last. Loading leaves all files as they are, octet for
octet, and so does making the first catalog where there is one already; where there is none, the
document of the defaults is there afterwards as it stands. So making the first catalog over and over
loses nothing and always gives the same catalog. -/
theorem behaves_as_cell {uses : List Use} (absent : tree.isPresent home.catalogFile = false)
    (ready : Ready tree home) (undisturbed : Undisturbed home tree uses) :
    (∀ past use rest, uses = past ++ use :: rest →
      let cell := cellAfter none past
      let before := treeAfter home tree past
      let finished := use.run home before
      finished.result = use.answer home cell ∧
        (use.writes cell = false → finished.tree = before) ∧
        (use = .init → cell = none → finished.tree.item? home.catalogFile =
          some (.file ownFileMode Defaults.document.toUTF8))) ∧
    ∀ past middle rest, uses = past ++ (.init :: middle ++ [.init]) ++ rest →
      (∀ config, Use.save config ∉ middle) →
        treeAfter home tree (past ++ (.init :: middle ++ [.init])) =
            treeAfter home tree (past ++ [.init]) ∧
          (Use.init.run home (treeAfter home tree (past ++ .init :: middle))).result =
            (Use.init.run home (treeAfter home tree past)).result := by
  have holds : Holds tree home none := absent
  constructor
  · rintro past use rest rfl
    obtain ⟨begun, goes, -⟩ := undisturbed_append.1 undisturbed
    obtain ⟨held, free⟩ := holds_after holds ready begun
    have agrees := gives_use held free use goes
    exact ⟨agrees.answer, agrees.still, agrees.first⟩
  · rintro past middle rest rfl unsaved
    obtain ⟨begun, -⟩ := undisturbed_append.1 undisturbed
    obtain ⟨begun, goes⟩ := undisturbed_append.1 begun
    rw [treeAfter_append past, treeAfter_append past, treeAfter_append past]
    obtain ⟨held, free⟩ := holds_after holds ready begun
    exact init_again held free goes unsaved

/-! ## A home directory with nothing in it -/

/-- Every change that the script asks for is made, and this tree is left then. -/
def Leaves {α : Type} (script : Script α) (tree after : FileTree) : Prop :=
  script.Unrefused tree ∧ (script.run tree).tree = after

namespace Leaves
variable {α : Type} {path : Path} {middle after : FileTree}

theorem done {result : α} : Leaves (.done result) tree tree := ⟨.done, rfl⟩

theorem looked {next : Bool → Script α} {found : Bool} (seen : tree.isPresent path = found)
    (on : Leaves (next found) tree after) : Leaves (.isPresent path next) tree after := by
  subst seen
  exact ⟨.looked on.1, on.2⟩

theorem changed {change : Change} {next : Except FileError Unit → Script α}
    (made : change.apply tree = .ok middle) (on : Leaves (next (.ok ())) middle after) :
    Leaves (.change change next) tree after :=
  ⟨.changed made on.1, by rw [Script.run, made]; exact on.2⟩

theorem log {event : Log.Event} {next : Script α} (on : Leaves next tree after) :
    Leaves (.log event next) tree after := ⟨.log on.1, on.2⟩

end Leaves

/-- A home directory with nothing in it. -/
def freshHome : FileTree where
  entry? place := if place = ["home"] then some (.directory directoryMode) else none

/-- The catalog directory is made in the home. -/
def furnishedHome : FileTree :=
  (freshHome.erase [".mobportals", "home"]).put [".mobportals", "home"]
    (some (.directory directoryMode))

theorem makeDirectories_freshHome :
    freshHome.makeDirectories (Path.catalogDirectory ⟨"/home"⟩) = .ok furnishedHome := rfl

theorem ready_freshHome : Ready freshHome ⟨"/home"⟩ := by
  intro made h
  obtain rfl := Except.ok.inj (makeDirectories_freshHome.symm.trans h)
  have arrives : furnishedHome.seek (Path.catalogFile ⟨"/home"⟩) =
    .ok ["messages.yaml", ".mobportals", "home"] := rfl
  refine ⟨rfl, fun place sought link => ?_⟩
  obtain rfl := Except.ok.inj (arrives.symm.trans sought)
  cases link

theorem setMode_furnishedHome :
    furnishedHome.setMode (Path.catalogDirectory ⟨"/home"⟩) ownDirectoryMode =
      .ok (crowdedHome none none) := by
  have located : furnishedHome.locate (Path.catalogDirectory ⟨"/home"⟩) =
    .ok [".mobportals", "home"] := by decide +kernel
  rw [setMode_directory located rfl, furnishedHome, put_put]
  refine congrArg (fun entry? => Except.ok { freshHome with entry? }) (funext fun place => ?_)
  by_cases here : place = [".mobportals", "home"]
  · simp [here]
  · by_cases home : place = ["home"]
    · subst home
      rfl
    · simp [erase, freshHome, home, here]

theorem write_temporary (catalog : Option Entry) (document : ByteArray) :
    (crowdedHome catalog none).write (Path.temporaryFile ⟨"/home"⟩) document =
      .ok (crowdedHome catalog (some (.file fileMode document))) := by
  rw [write_new (locate_temporary _ _ rfl) rfl, fill_temporary _ _ (by simp)]

theorem leaves_init :
    Leaves (Use.init.task ⟨"/home"⟩).run freshHome
      (crowdedHome (some (.file ownFileMode Defaults.document.toUTF8)) none) :=
  .looked rfl (.looked rfl (.changed makeDirectories_freshHome (.changed setMode_furnishedHome
    (.changed (write_temporary _ _) (.changed (setMode_temporary _ _ _ _)
      (.changed (moveFile_crowdedHome _ rfl rfl rfl (by simp) rfl) .done))))))

theorem leaves_save (config : Config) (catalog : Option Entry)
    (free : Entry.isDirectory catalog = false) :
    Leaves ((Use.save config).task ⟨"/home"⟩).run (crowdedHome catalog none)
      (crowdedHome (some (.file ownFileMode config.write.toUTF8)) none) :=
  .looked rfl (.changed (write_temporary _ _) (.changed (setMode_temporary _ _ _ _)
    (.changed (moveFile_crowdedHome _ rfl rfl rfl (by simp) free) (.log .done))))

/-- There the first catalog is the defaults, and an empty catalog that is saved next stays. -/
theorem freshHome_uses :
    let home : Path := ⟨"/home"⟩
    let uses : List Use := [.loadOrDefault, .init, .save {}, .init]
    freshHome.isPresent home.catalogFile = false ∧ Ready freshHome home ∧
      Undisturbed home freshHome uses ∧
      (Use.init.run home (treeAfter home freshHome [.loadOrDefault])).result =
        .ok (some Defaults.config) ∧
      (Use.init.run home (treeAfter home freshHome [.loadOrDefault, .init, .save {}])).result =
        .ok (some (Config.layeredOver {} Defaults.config)) ∧
      (treeAfter home freshHome uses).item? home.catalogFile =
        some (.file ownFileMode (Config.write {}).toUTF8) := by
  have absent : freshHome.isPresent (Path.catalogFile ⟨"/home"⟩) = false := rfl
  have merges (tree : FileTree) :
      Script.Unrefused (do return some (← loadMerged ⟨"/home"⟩) : Task (Option Config)).run tree :=
    Task.unrefused_bind (Task.unrefused_bind (unrefused_load _ tree) fun _ _ => .done)
      fun _ _ => .done
  have loads : Leaves (Use.loadOrDefault.task ⟨"/home"⟩).run freshHome freshHome :=
    .looked rfl (.log .done)
  have makes := leaves_init
  have saves := leaves_save {} (some (.file ownFileMode Defaults.document.toUTF8)) rfl
  have first : (Use.loadOrDefault.run ⟨"/home"⟩ freshHome).tree = freshHome := loads.2
  have second : (Use.init.run ⟨"/home"⟩ freshHome).tree =
    crowdedHome (some (.file ownFileMode Defaults.document.toUTF8)) none := makes.2
  have third : ((Use.save {}).run ⟨"/home"⟩
    (crowdedHome (some (.file ownFileMode Defaults.document.toUTF8)) none)).tree =
      crowdedHome (some (.file ownFileMode (Config.write {}).toUTF8)) none := saves.2
  have undisturbed : Undisturbed ⟨"/home"⟩ freshHome [.loadOrDefault, .init, .save {}, .init] := by
    refine ⟨loads.1, ?_⟩
    rw [first]
    refine ⟨makes.1, ?_⟩
    rw [second]
    refine ⟨saves.1, ?_⟩
    rw [third]
    exact ⟨.looked (merges _), trivial⟩
  obtain ⟨runs, -⟩ := behaves_as_cell absent ready_freshHome undisturbed
  have initial := runs [.loadOrDefault] .init [.save {}, .init] rfl
  have again := runs [.loadOrDefault, .init, .save {}] .init [] rfl
  refine ⟨absent, ready_freshHome, undisturbed, initial.1, again.1, ?_⟩
  have still : treeAfter ⟨"/home"⟩ freshHome [.loadOrDefault, .init, .save {}, .init] =
    treeAfter ⟨"/home"⟩ freshHome [.loadOrDefault, .init, .save {}] := again.2.1 rfl
  rw [still]
  show ((Use.save {}).run ⟨"/home"⟩ (Use.init.run ⟨"/home"⟩
    (Use.loadOrDefault.run ⟨"/home"⟩ freshHome).tree).tree).tree.item? _ = _
  rw [first, second, third]
  rfl

theorem unrefused_load_task (home : Path) (tree : FileTree) :
    Script.Unrefused (Use.load.task home).run tree :=
  Task.unrefused_bind (unrefused_load _ tree) fun _ _ => .done

/-- Where there is no catalog, there is nothing to load. -/
theorem load_of_absent (absent : tree.isPresent home.catalogFile = false) :
    (Use.load.run home tree).result = Use.load.answer home none := by
  have holds : Holds tree home none := absent
  have gives : Script.Gives (Use.load.task home).run tree
    fun result _ => result = Use.load.answer home none := gives_some (gives_load holds rfl)
  exact gives (unrefused_load_task home tree)

/-- A symbolic link to where the catalog will be undoes this. What is saved is written to the place
of the catalog, and the link is put over it, so there is nothing to load afterwards. -/
theorem linkedHome_forgets :
    let home : Path := ⟨"/home"⟩
    (linkedHome none).isPresent home.catalogFile = false ∧
      Undisturbed home (linkedHome none) [.save {}, .load] ∧
      cellAfter none [.save {}] = some {} ∧
      (Use.load.run home (treeAfter home (linkedHome none) [.save {}])).result ≠
        Use.load.answer home (some {}) := by
  have written (document : ByteArray) :
      (linkedHome none).write (Path.temporaryFile ⟨"/home"⟩) document =
        .ok (linkedHome (some (.file fileMode document))) := by
    rw [write_new (locate_linkedHome rfl) rfl, linkedHome, fill_catalog _ _ (by simp)]
    rfl
  have saves : Leaves ((Use.save {}).task ⟨"/home"⟩).run (linkedHome none)
      (crowdedHome (some (.link ⟨"messages.yaml"⟩)) none) :=
    .looked rfl (.changed (written _) (.changed (setMode_linkedHome _ _ _)
      (.changed (moveFile_crowdedHome _ rfl rfl rfl (by simp) rfl) (.log .done))))
  have left : treeAfter ⟨"/home"⟩ (linkedHome none) [.save {}] =
    crowdedHome (some (.link ⟨"messages.yaml"⟩)) none := saves.2
  have absent : (linkedHome none).isPresent (Path.catalogFile ⟨"/home"⟩) = false := by
    decide +kernel
  have later :
      Undisturbed ⟨"/home"⟩ (treeAfter ⟨"/home"⟩ (linkedHome none) [.save {}]) [.load] := by
    rw [left]
    exact ⟨unrefused_load_task _ _, trivial⟩
  have undisturbed : Undisturbed ⟨"/home"⟩ (linkedHome none) [.save {}, .load] := ⟨saves.1, later⟩
  refine ⟨absent, undisturbed, rfl, ?_⟩
  rw [left, load_of_absent isPresent_loop]
  simp [Use.answer, loaded, Except.map]

end CatalogFile
end InteractiveMobs
