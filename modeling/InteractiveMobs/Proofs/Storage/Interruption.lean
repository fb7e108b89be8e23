import InteractiveMobs.Storage.CatalogFile

/-!
# Scripts that stop half-way

A system may refuse any operation of a script, for whatever reason, and a script may stop before,
within or behind any of them. `Script.Leads` says what it may leave then, and with which result if
it got that far. A change that does not succeed is none at all, or a file is there in part, or only
the first of several directories are. Carrying a script out in full is one way for it to go
(`Script.leads_run`).

`Task.Ensures` says what a task leaves however it goes: when it fails, when it is done, and when it
stops before either. There is one rule for each operation, and one for tasks in two parts.
-/

namespace InteractiveMobs
set_option autoImplicit false

/-- What a change that did not succeed may have made of a tree. -/
inductive Change.Begun : Change → FileTree → FileTree → Prop where
  | untouched {change : Change} {tree : FileTree} : Begun change tree tree
  /-- The file is there with the first octets of its contents. -/
  | cut {path : Path} {contents : ByteArray} {tree after : FileTree} (n : Nat)
    (written : tree.write path (contents.extract 0 n) = .ok after) :
    Begun (.write path contents) tree after
  /-- The directories of the first parts of the path are there. -/
  | outer {path : Path} {tree after : FileTree} (n : Nat) (small : n ≤ path.parts.length)
    (begun : tree.makeOuter (tree.start path) path.parts n = .ok after) :
    Begun (.makeDirectories path) tree after

/-- What a script may lead to: its result, if it gets to one, and the tree that it leaves. -/
inductive Script.Leads {α : Type} : Script α → FileTree → Option α → FileTree → Prop where
  | stopped {script : Script α} {tree : FileTree} : Leads script tree none tree
  | done {result : α} {tree : FileTree} : Leads (.done result) tree (some result) tree
  | looked {path : Path} {next : Bool → Script α} {tree after : FileTree} {result : Option α}
    (on : Leads (next (tree.isPresent path)) tree result after) :
    Leads (.isPresent path next) tree result after
  /-- Looking fails, which counts as finding nothing. -/
  | blind {path : Path} {next : Bool → Script α} {tree after : FileTree} {result : Option α}
    (on : Leads (next false) tree result after) : Leads (.isPresent path next) tree result after
  | read {path : Path} {next : Except FileError ByteArray → Script α} {tree after : FileTree}
    {result : Option α} (on : Leads (next (tree.read path)) tree result after) :
    Leads (.read path next) tree result after
  | unread {path : Path} {next : Except FileError ByteArray → Script α} {tree after : FileTree}
    {result : Option α} (error : FileError) (on : Leads (next (.error error)) tree result after) :
    Leads (.read path next) tree result after
  | changed {change : Change} {next : Except FileError Unit → Script α}
    {tree middle after : FileTree} {result : Option α} (made : change.apply tree = .ok middle)
    (on : Leads (next (.ok ())) middle result after) : Leads (.change change next) tree result after
  | interrupted {change : Change} {next : Except FileError Unit → Script α}
    {tree after : FileTree} (begun : change.Begun tree after) :
    Leads (.change change next) tree none after
  | refused {change : Change} {next : Except FileError Unit → Script α}
    {tree middle after : FileTree} {result : Option α} (error : FileError)
    (begun : change.Begun tree middle) (on : Leads (next (.error error)) middle result after) :
    Leads (.change change next) tree result after
  | log {event : Log.Event} {next : Script α} {tree after : FileTree} {result : Option α}
    (on : Leads next tree result after) : Leads (.log event next) tree result after

namespace Script
variable {α β : Type}

/-- A script leads to what carrying it out gives. -/
theorem leads_run (script : Script α) (tree : FileTree) :
    script.Leads tree (some (script.run tree).result) (script.run tree).tree := by
  induction script generalizing tree with
  | done result => exact .done
  | isPresent path next ih => exact .looked (ih _ tree)
  | read path next ih => exact .read (ih _ tree)
  | change c next ih =>
    rw [run]
    split
    next changed made => exact .changed made (ih _ changed)
    next error refused => exact .refused error .untouched (ih _ tree)
  | log event next ih => exact .log (ih tree)

/-- A script of two parts stops in the first, or goes on with the result of the first. -/
def Splits (script : Script α) (next : α → Script β) (tree : FileTree) (result : Option β)
    (after : FileTree) : Prop :=
  result = none ∧ script.Leads tree none after ∨
    ∃ value middle, script.Leads tree (some value) middle ∧ (next value).Leads middle result after

theorem Splits.build {inner outer : Script α} {next : α → Script β} {tree start after : FileTree}
    {result : Option β} (h : inner.Splits next start result after)
    (build : ∀ {value middle}, inner.Leads start value middle → outer.Leads tree value middle) :
    outer.Splits next tree result after := by
  rcases h with ⟨early, first⟩ | ⟨value, middle, first, later⟩
  · exact .inl ⟨early, build first⟩
  · exact .inr ⟨value, middle, build first, later⟩

theorem leads_bind {script : Script α} {next : α → Script β} {tree after : FileTree}
    {result : Option β} (h : (script.bind next).Leads tree result after) :
    script.Splits next tree result after := by
  induction script generalizing tree with
  | done value => exact .inr ⟨value, tree, .done, h⟩
  | isPresent path rest ih =>
    cases h with
    | stopped => exact .inl ⟨rfl, .stopped⟩
    | looked on => exact (ih _ on).build .looked
    | blind on => exact (ih _ on).build .blind
  | read path rest ih =>
    cases h with
    | stopped => exact .inl ⟨rfl, .stopped⟩
    | read on => exact (ih _ on).build .read
    | unread error on => exact (ih _ on).build (.unread error)
  | change c rest ih =>
    cases h with
    | stopped => exact .inl ⟨rfl, .stopped⟩
    | interrupted begun => exact .inl ⟨rfl, .interrupted begun⟩
    | changed made on => exact (ih _ on).build (.changed made)
    | refused error begun on => exact (ih _ on).build (.refused error begun)
  | log event rest ih =>
    cases h with
    | stopped => exact .inl ⟨rfl, .stopped⟩
    | log on => exact (ih on).build .log

end Script

/-! ## Tasks -/

/-- However a task goes, it leaves a tree that is right for its end: `failed` if it fails, `done` if
it gives a result, and one of these if it gets to neither. -/
def Task.Ensures {α : Type} (task : Task α) (tree : FileTree) (failed : FileTree → Prop)
    (done : α → FileTree → Prop) : Prop :=
  ∀ result after, Script.Leads task.run tree result after →
    match result with
    | none => failed after ∨ ∃ value, done value after
    | some (.error _) => failed after
    | some (.ok value) => done value after

namespace Task
variable {α β : Type} {tree : FileTree} {failed : FileTree → Prop}

theorem ensures_pure {value : α} {done : α → FileTree → Prop} (here : done value tree) :
    Ensures (pure value) tree failed done := by
  intro result after leads
  cases leads with
  | stopped => exact .inr ⟨value, here⟩
  | done => exact here

/-- A task of two parts that stops between them has not begun the second. -/
theorem ensures_bind {task : Task α} {next : α → Task β} {done : β → FileTree → Prop}
    (middle : α → FileTree → Prop) (first : task.Ensures tree failed middle)
    (later : ∀ value after, middle value after → (next value).Ensures after failed done) :
    Ensures (task >>= next) tree failed done := by
  intro result after leads
  rcases Script.leads_bind leads with ⟨rfl, early⟩ | ⟨value, between, early, late⟩
  · rcases first none after early with reached | ⟨value, there⟩
    · exact .inl reached
    · exact later value after there none after .stopped
  · have reached := first _ _ early
    cases value with
    | error error =>
      cases late with
      | stopped => exact .inl reached
      | done => exact reached
    | ok value => exact later value between reached result after late

end Task

namespace CatalogFile

variable {α : Type} {tree : FileTree} {failed : FileTree → Prop}

theorem ensures_isPresent {path : Path} {done : Bool → FileTree → Prop}
    (here : done (tree.isPresent path) tree) (unseen : done false tree) :
    (isPresent path).Ensures tree failed done := by
  intro result after leads
  cases leads with
  | stopped => exact .inr ⟨false, unseen⟩
  | looked on =>
    cases on with
    | stopped => exact .inr ⟨false, unseen⟩
    | done => exact here
  | blind on =>
    cases on with
    | stopped => exact .inr ⟨false, unseen⟩
    | done => exact unseen

theorem ensures_perform {change : Change} {done : Unit → FileTree → Prop}
    (begins : ∀ after, change.Begun tree after → failed after)
    (applies : ∀ after, change.apply tree = .ok after → done () after) :
    (perform change).Ensures tree failed done := by
  intro result after leads
  cases leads with
  | stopped => exact .inl (begins _ .untouched)
  | interrupted begun => exact .inl (begins _ begun)
  | changed made on =>
    cases on with
    | stopped => exact .inr ⟨(), applies _ made⟩
    | done => exact applies _ made
  | refused error begun on =>
    cases on with
    | stopped => exact .inl (begins _ begun)
    | done => exact begins _ begun

theorem ensures_tell {event : Log.Event} {done : Unit → FileTree → Prop} (here : done () tree) :
    (tell event).Ensures tree failed done := by
  intro result after leads
  cases leads with
  | stopped => exact .inr ⟨(), here⟩
  | log on =>
    cases on with
    | stopped => exact .inr ⟨(), here⟩
    | done => exact here

end CatalogFile
end InteractiveMobs
