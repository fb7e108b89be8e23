import InteractiveMobs.Log
import InteractiveMobs.Storage.FileTree

/-!
# Scripts

A script says what a computation asks of the file system, one operation after the other, and what
it has to tell the log. `Script.run` carries a script out on a file tree. Because every operation
is a step of its own, a script also says what is left behind when it stops half-way.
-/

namespace InteractiveMobs
set_option autoImplicit false

/-- An operation that changes files. -/
inductive Change where
  /-- Makes a directory and those above it that are missing. -/
  | makeDirectories (path : Path)
  | setMode (path : Path) (mode : Nat)
  | write (path : Path) (contents : ByteArray)
  /-- Moves a file over another one, or to where nothing is. -/
  | moveFile (source target : Path)

/-- The tree after a change. -/
def Change.apply (change : Change) (tree : FileTree) : Except FileError FileTree :=
  match change with
  | makeDirectories path => tree.makeDirectories path
  | setMode path mode => tree.setMode path mode
  | write path contents => tree.write path contents
  | moveFile source target => tree.moveFile source target

/-- What a computation asks of the file system and tells the log, up to its result. -/
inductive Script (α : Type) where
  | done (result : α)
  | isPresent (path : Path) (next : Bool → Script α)
  | read (path : Path) (next : Except FileError ByteArray → Script α)
  | change (change : Change) (next : Except FileError Unit → Script α)
  | log (event : Log.Event) (next : Script α)

/-- A script carried out: its result, the tree it leaves, and what it told the log. -/
structure Finished (α : Type) where
  result : α
  tree : FileTree
  events : List Log.Event := []

namespace Script
variable {α β : Type}

/-- One script and then another, which knows the result of the first. -/
def bind : Script α → (α → Script β) → Script β
  | done result, next => next result
  | isPresent path rest, next => isPresent path fun found => (rest found).bind next
  | read path rest, next => read path fun contents => (rest contents).bind next
  | change c rest, next => change c fun answer => (rest answer).bind next
  | log event rest, next => log event (rest.bind next)

instance : Monad Script where
  pure := done
  bind := bind

/-- Carries a script out. A refused change leaves the tree as it is. -/
def run : Script α → FileTree → Finished α
  | done result, tree => { result, tree }
  | isPresent path next, tree => (next (tree.isPresent path)).run tree
  | read path next, tree => (next (tree.read path)).run tree
  | change c next, tree =>
    match c.apply tree with
    | .ok changed => (next (.ok ())).run changed
    | .error error => (next (.error error)).run tree
  | log event next, tree =>
    let finished := next.run tree
    { finished with events := event :: finished.events }

/-- A script of two parts is carried out part by part. -/
theorem run_bind (script : Script α) (next : α → Script β) (tree : FileTree) :
    (script.bind next).run tree =
      let first := script.run tree
      let second := (next first.result).run first.tree
      { second with events := first.events ++ second.events } := by
  induction script generalizing tree with
  | done result => simp [bind, run]
  | isPresent path rest ih => simp [bind, run, ih]
  | read path rest ih => simp [bind, run, ih]
  | change c rest ih =>
    simp only [bind, run]
    split <;> simp [ih]
  | log event rest ih => simp [bind, run, ih]

end Script
end InteractiveMobs
