import InteractiveMobs.Catalog.Defaults
import InteractiveMobs.Catalog.Error
import InteractiveMobs.Catalog.Reading
import InteractiveMobs.Catalog.Writing
import InteractiveMobs.Storage.Script

/-!
# The catalog file

Loading and saving the catalog of a home directory. A document is written beside its place first
and moved there when it is complete and readable by its owner alone, so what is at the place is
always a whole document.
-/

namespace InteractiveMobs
set_option autoImplicit false

/-- A script that may fail. -/
abbrev Task (α : Type) := ExceptT CatalogError Script α

namespace CatalogFile

/-- The permission bits of a catalog file. -/
def ownFileMode : Nat := 0o600

/-- The permission bits of a catalog directory. -/
def ownDirectoryMode : Nat := 0o700

/-- Whether something is at a path. -/
def isPresent (path : Path) : Task Bool :=
  ExceptT.mk (.isPresent path fun found => .done (.ok found))

/-- The refusal as a catalog error. -/
def refused {α : Type} : Except FileError α → Except CatalogError α
  | .ok result => .ok result
  | .error error => .error (.io error.message)

/-- The contents of a file. -/
def readBytes (path : Path) : Task ByteArray :=
  ExceptT.mk (.read path fun contents => .done (refused contents))

/-- Makes a change; a refusal ends the task. -/
def perform (change : Change) : Task Unit :=
  ExceptT.mk (.change change fun answer => .done (refused answer))

/-- Tells the log of an event. -/
def tell (event : Log.Event) : Task Unit := ExceptT.mk (.log event (.done (.ok ())))

/-- The text of a file. -/
def readText (path : Path) : Task String := do
  match String.fromUTF8? (← readBytes path) with
  | some text => return text
  | none => throw (.io FileError.notText.message)

/-- The event of a catalog that went from or to a file. -/
def event (message : String) (path : Path) (config : Config) : Log.Event where
  area := .catalogFiles
  level := .debug
  message := message
  fields := [("path", .text path.text), ("messages", .count config.messages.size)]

/-- The catalog at a path, as it stands there. -/
def load (path : Path) : Task Config := do
  unless ← isPresent path do throw (.catalogNotFound path)
  match Config.read (← readText path) with
  | .ok config =>
    tell (event "loaded message catalog" path config)
    return config
  | .error error => throw (.parse path error.message)

/-- The catalog of a home directory laid over the defaults. -/
def loadMerged (home : Path) : Task Config := do
  return (← load home.catalogFile).layeredOver Defaults.config

/-- The catalog of a home directory laid over the defaults, which stand alone if there is none. -/
def loadOrDefault (home : Path) : Task Config :=
  tryCatch (loadMerged home) fun
    | .catalogNotFound path => do
      tell (Log.debug .catalogFiles "no user catalog, using defaults" [("path", path.text)])
      return Defaults.config
    | error => throw error

/-- Makes sure of the catalog directory; a new one is for its owner alone. -/
def ensureDirectory (directory : Path) : Task Unit := do
  unless ← isPresent directory do
    perform (.makeDirectories directory)
    perform (.setMode directory ownDirectoryMode)

/-- Puts a document in the place of the catalog. -/
def replace (home : Path) (document : String) : Task Unit := do
  perform (.write home.temporaryFile document.toUTF8)
  perform (.setMode home.temporaryFile ownFileMode)
  perform (.moveFile home.temporaryFile home.catalogFile)

/-- Makes a catalog the one of a home directory. -/
def save (home : Path) (config : Config) : Task Unit := do
  ensureDirectory home.catalogDirectory
  replace home config.write
  tell (event "saved message catalog" home.catalogFile config)

/-- The catalog of a home directory laid over the defaults. Where there is none, the document of
the defaults is put there. -/
def init (home : Path) : Task Config := do
  if ← isPresent home.catalogFile then loadMerged home
  else
    ensureDirectory home.catalogDirectory
    replace home Defaults.document
    return Defaults.config

end CatalogFile
end InteractiveMobs
