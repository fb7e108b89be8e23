import InteractiveMobs.Storage.FileError
import InteractiveMobs.Storage.Path

/-!
# File trees

Files, directories and links by their place, which is the list of names from the innermost one out.
What a tree holds at a place counts only if every place above it is a directory, so a directory's
contents come and go with it. A file with several names is kept apart from them, so what is done to
it by one name shows by all. A symbolic link on the way of a path leads on to its target; at the end
of the way it does so for what is read, written or looked for, while a file is moved from and to the
very name that the path ends in. Each operation either succeeds as a whole or is refused.
-/

namespace InteractiveMobs
set_option autoImplicit false

/-- What a place holds. Pipes, sockets and devices are left out. -/
inductive Entry where
  | file (mode : Nat) (contents : ByteArray)
  | directory (mode : Nat)
  /-- One of the names of a file that has several. -/
  | name (number : Nat)
  /-- A symbolic link. A relative target starts from the directory of the link. -/
  | link (target : Path)
deriving Inhabited

/-- Whether there is a directory. -/
def Entry.isDirectory : Option Entry → Bool
  | some (.directory _) => true
  | some _ | none => false

/-- A file or a directory, with its permission bits. -/
inductive Item where
  | file (mode : Nat) (contents : ByteArray)
  | directory (mode : Nat)
deriving Inhabited

/-- Where something is: the names on the way, the innermost first. The root has none. -/
abbrev Place := List String

/-- What is at which place, and the place that relative paths start from. -/
structure FileTree where
  entry? : Place → Option Entry := fun _ => none
  /-- The permission bits and the contents of the files with several names. -/
  shared : Nat → Nat × ByteArray := fun _ => (0, ByteArray.empty)
  current : Place := []

namespace FileTree

/-- The permission bits of a new file. -/
def fileMode : Nat := 0o644

/-- The permission bits of a new directory. -/
def directoryMode : Nat := 0o755

/-- How many symbolic links one path may lead through. -/
def maxLinks : Nat := 40

/-! ## Places -/

/-- What is at a place. The root is always there. -/
def find? (tree : FileTree) : Place → Option Entry
  | [] => some (.directory directoryMode)
  | name :: parent =>
    match tree.find? parent with
    | some (.directory _) => tree.entry? (name :: parent)
    | _ => none

/-- The target of the symbolic link at a place. -/
def link? (tree : FileTree) (place : Place) : Option Path :=
  match tree.find? place with
  | some (.link target) => some target
  | _ => none

/-- The file or directory at a place. -/
def itemAt? (tree : FileTree) (place : Place) : Option Item :=
  match tree.find? place with
  | some (.file mode contents) => some (.file mode contents)
  | some (.directory mode) => some (.directory mode)
  | some (.name number) => some (.file (tree.shared number).1 (tree.shared number).2)
  | some (.link _) | none => none

/-- The tree with another entry, or none, at one place. -/
def put (tree : FileTree) (place : Place) (entry : Option Entry) : FileTree :=
  { tree with entry? := fun other => if other = place then entry else tree.entry? other }

/-- The tree with nothing at a place or below it. -/
def erase (tree : FileTree) (place : Place) : FileTree :=
  { tree with entry? := fun other => if place.isSuffixOf other then none else tree.entry? other }

/-- The tree with a file at a place. If the place holds one of the names of a file, that file is
changed, under all its names. -/
def fill (tree : FileTree) (place : Place) (mode : Nat) (contents : ByteArray) : FileTree :=
  match tree.find? place with
  | some (.name number) =>
    { tree with
      shared := fun other => if other = number then (mode, contents) else tree.shared other }
  | _ => tree.put place (some (.file mode contents))

/-- Whether two places hold names of one file. -/
def isSameFile (tree : FileTree) (place other : Place) : Bool :=
  match tree.find? place, tree.find? other with
  | some (.name number), some (.name number') => number == number'
  | _, _ => false

/-! ## Ways -/

/-- The place one part of a path leads to from a directory. -/
def follow (place : Place) (part : String) : Place :=
  if part = "" ∨ part = "." then place
  else if part = ".." then place.tail
  else part :: place

/-- Takes one part of a path; only a directory can be left by one. -/
def enter (tree : FileTree) (place : Place) (part : String) : Except FileError Place :=
  match tree.find? place with
  | some (.directory _) => .ok (follow place part)
  | some _ => .error .notDirectory
  | none => .error .notFound

/-- Where a path starts that is taken from a directory. -/
def origin (directory : Place) (path : Path) : Place := if path.isAbsolute then [] else directory

/-- The target of the link at a place that a way leads through, by what is left of the way behind
it. A way that has nothing left goes through only if it `ends` where the link leads. -/
def opened? (tree : FileTree) (ends : Bool) (place : Place) (rest : List String) : Option Path :=
  if ends || !rest.isEmpty then tree.link? place else none

/-- Takes the parts of a path up to the first link, and goes `onward` from its target. -/
def walk (tree : FileTree) (ends : Bool) (onward : Place → List String → Except FileError Place) :
    Place → List String → Except FileError Place
  | place, [] => .ok place
  | place, part :: rest => do
    let next ← tree.enter place part
    match tree.opened? ends next rest with
    | none => tree.walk ends onward next rest
    | some target => onward (origin next.tail target) (target.parts ++ rest)

/-- Takes the parts of a path through at most so many symbolic links. -/
def reachWithin (tree : FileTree) (ends : Bool) :
    Nat → Place → List String → Except FileError Place
  | 0 => tree.walk ends fun _ _ => .error .tooManyLinks
  | n + 1 => tree.walk ends (tree.reachWithin ends n)

/-- Takes the parts of a path. -/
def reach (tree : FileTree) (ends : Bool) (place : Place) (parts : List String) :
    Except FileError Place := tree.reachWithin ends maxLinks place parts

/-- Where a path starts. -/
def start (tree : FileTree) (path : Path) : Place := origin tree.current path

/-- The place a path leads to. It need not hold anything, but its directory is there. -/
def locate (tree : FileTree) (path : Path) : Except FileError Place :=
  if path.text = "" then .error .notFound else tree.reach true (tree.start path) path.parts

/-- The place whose name a path ends in. A symbolic link there stays unopened. -/
def seek (tree : FileTree) (path : Path) : Except FileError Place :=
  if path.text = "" then .error .notFound else tree.reach false (tree.start path) path.parts

/-! ## Operations -/

/-- What a path leads to. -/
def item? (tree : FileTree) (path : Path) : Option Item :=
  match tree.locate path with
  | .ok place => tree.itemAt? place
  | .error _ => none

/-- Whether something is at a path. -/
def isPresent (tree : FileTree) (path : Path) : Bool := (tree.item? path).isSome

/-- The contents of a file. -/
def read (tree : FileTree) (path : Path) : Except FileError ByteArray := do
  match tree.itemAt? (← tree.locate path) with
  | some (.file _ contents) => return contents
  | some (.directory _) => throw .isDirectory
  | none => throw .notFound

/-- The tree with the contents at a path. A file that is there keeps its permissions. -/
def write (tree : FileTree) (path : Path) (contents : ByteArray) : Except FileError FileTree := do
  let place ← tree.locate path
  match tree.itemAt? place with
  | some (.file mode _) => return tree.fill place mode contents
  | some (.directory _) => throw .isDirectory
  | none => return tree.fill place fileMode contents

/-- The tree with other permissions at a path. -/
def setMode (tree : FileTree) (path : Path) (mode : Nat) : Except FileError FileTree := do
  let place ← tree.locate path
  match tree.itemAt? place with
  | some (.file _ contents) => return tree.fill place mode contents
  | some (.directory _) => return tree.put place (some (.directory mode))
  | none => throw .notFound

/-- The tree with a file or a link moved, in the place of what was there unless it was a directory.
Directories are not moved, and nothing is done to move a file to another one of its names. -/
def moveFile (tree : FileTree) (source target : Path) : Except FileError FileTree := do
  let origin ← tree.seek source
  let place ← tree.seek target
  match tree.find? origin, tree.find? place with
  | none, _ => throw .notFound
  | some (.directory _), _ | some _, some (.directory _) => throw .isDirectory
  | some entry, _ =>
    if tree.isSameFile origin place then return tree
    else return (tree.put origin none).put place (some entry)

/-! ## Directories -/

/-- The tree with a new directory, which is empty. -/
def makeDirectory (tree : FileTree) (place : Place) (parts : List String) :
    Except FileError FileTree := do
  let place ← tree.reach false place parts
  match tree.find? place with
  | none => return (tree.erase place).put place (some (.directory directoryMode))
  | some _ => throw .alreadyExists

/-- Whether the parts of a path lead to a directory. -/
def leadsToDirectory (tree : FileTree) (place : Place) (parts : List String) : Bool :=
  match tree.reach true place parts with
  | .ok place => Entry.isDirectory (tree.find? place)
  | .error _ => false

/-- The tree with a directory, which is new unless there is one. -/
def ensureDirectory (tree : FileTree) (place : Place) (parts : List String) :
    Except FileError FileTree :=
  match tree.makeDirectory place parts with
  | .ok made => .ok made
  | .error error => if tree.leadsToDirectory place parts then .ok tree else .error error

/-- The tree with a directory where the first `n` parts of a path lead, and with those above it that
are missing. -/
def makeOuter (tree : FileTree) (place : Place) (parts : List String) :
    Nat → Except FileError FileTree
  | 0 => .ok tree
  | n + 1 =>
    match tree.makeDirectory place (parts.take (n + 1)) with
    | .error .notFound => do
      let outer ← tree.makeOuter place parts n
      outer.ensureDirectory place (parts.take (n + 1))
    | _ => tree.ensureDirectory place (parts.take (n + 1))

/-- The tree with a directory at a path, and with those above it. -/
def makeDirectories (tree : FileTree) (path : Path) : Except FileError FileTree :=
  tree.makeOuter (tree.start path) path.parts path.parts.length

end FileTree
end InteractiveMobs
