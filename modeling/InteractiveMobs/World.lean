import InteractiveMobs.Action.Basic
import InteractiveMobs.Catalog.Config
import InteractiveMobs.Catalog.Error
import InteractiveMobs.Table

/-!
# Actors and the world

The host as actions see it: who asks, which warps and interactive mobs there are, and the
requests the host turns down. A request that is turned down changes nothing, which is why the
operations that can be refused answer with a world only when they were done. Commands and teleports
are done by the host alone: it is assumed that carrying one out changes no warp, no binding, no name
above a mob, no mode and no catalog before the action that asked for it is over.
-/

namespace InteractiveMobs
set_option autoImplicit false

/-- A player or the console, with what the host grants to it. -/
structure Actor where
  name : String
  isPlayer : Bool := true
  /-- The capabilities the actor holds. -/
  holds : Capability → Bool
  /-- The command lines the host accepts from the actor. That such a command leaves warps, mobs,
  modes and the catalog alone is assumed. -/
  performs : String → Bool := fun _ => true
  /-- The warps the host takes the actor to. A teleport, too, is assumed to change nothing else. -/
  reaches : WarpName → Bool := fun _ => true
  mode : Mode := .idle

/-- What the host decides by itself. -/
structure HostRules where
  /-- The warps it will not create, also where there is none of the name. -/
  refusesCreation : WarpName → Bool := fun _ => false
  /-- The warps it will not remove, also where there is one of the name. -/
  refusesRemoval : WarpName → Bool := fun _ => false
  /-- The order in which it shows warps, given them by name. -/
  arrange : List WarpName → List WarpName := id
  /-- The message configuration it finds when asked to read it again. -/
  configuration : Except CatalogError Config

/-- Warps, interactive mobs, and the rules of the host that keeps them. -/
structure World where
  /-- Every warp with the name of its owner. -/
  warps : Table WarpName String := ∅
  bindings : Table MobId Binding := ∅
  /-- The names shown above mobs. -/
  labels : Table MobId String := ∅
  rules : HostRules

namespace World

/-- Whether there is a warp of the name. -/
def hasWarp (world : World) (name : WarpName) : Bool := world.warps.contains name

/-- The warps in the order in which the host shows them. -/
def warpNames (world : World) : List WarpName := world.rules.arrange world.warps.keys

/-- The world with a new warp, unless the host refuses or has one of the name. -/
def createWarp (world : World) (name : WarpName) (owner : String) : Option World :=
  if world.rules.refusesCreation name || world.hasWarp name then none
  else some { world with warps := world.warps.insert name owner }

/-- The world without the warp, unless the host refuses or has none of the name. -/
def removeWarp (world : World) (name : WarpName) : Option World :=
  if world.rules.refusesRemoval name || !world.hasWarp name then none
  else some { world with warps := world.warps.erase name }

/-- The binding of a mob, if it is interactive. -/
def binding? (world : World) (mob : MobId) : Option Binding := world.bindings.get? mob

/-- The world with the binding on the mob. -/
def bind (world : World) (mob : MobId) (binding : Binding) : World :=
  { world with bindings := world.bindings.insert mob binding }

/-- The world with no binding on the mob. -/
def unbind (world : World) (mob : MobId) : World :=
  { world with bindings := world.bindings.erase mob }

/-- The world with the name above the mob, or with none. -/
def setLabel (world : World) (mob : MobId) (label : Option String) : World :=
  match label with
  | some text => { world with labels := world.labels.insert mob text }
  | none => { world with labels := world.labels.erase mob }

/-- The owner of a warp, if there is a warp of the name. -/
def owner? (world : World) (name : WarpName) : Option String := world.warps.get? name

/-- The name shown above a mob, if there is one. -/
def label? (world : World) (mob : MobId) : Option String := world.labels.get? mob

theorem owner?_eq_none_iff {world : World} {name : WarpName} :
    world.owner? name = none ↔ world.hasWarp name = false := by
  rw [hasWarp, Table.contains, Option.isSome_eq_false_iff, Option.isNone_iff_eq_none, owner?]

/-! ## What each operation does to each record -/

section Records

variable (world : World) (mob other : MobId) (binding : Binding) (label : Option String)
variable (name : WarpName) (owner : String)

@[simp] theorem owner?_bind : (world.bind mob binding).owner? name = world.owner? name := rfl

@[simp] theorem owner?_unbind : (world.unbind mob).owner? name = world.owner? name := rfl

@[simp] theorem owner?_setLabel : (world.setLabel mob label).owner? name = world.owner? name := by
  cases label <;> rfl

theorem binding?_bind : (world.bind mob binding).binding? other =
    if other = mob then some binding else world.binding? other := Table.get?_insert

theorem binding?_unbind : (world.unbind mob).binding? other =
    if other = mob then none else world.binding? other := Table.get?_erase

@[simp] theorem binding?_setLabel : (world.setLabel mob label).binding? other =
    world.binding? other := by
  cases label <;> rfl

@[simp] theorem binding?_createWarp : ((world.createWarp name owner).getD world).binding? other =
    world.binding? other := by
  unfold createWarp
  split <;> rfl

@[simp] theorem binding?_removeWarp : ((world.removeWarp name).getD world).binding? other =
    world.binding? other := by
  unfold removeWarp
  split <;> rfl

@[simp] theorem label?_bind : (world.bind mob binding).label? other = world.label? other := rfl

@[simp] theorem label?_unbind : (world.unbind mob).label? other = world.label? other := rfl

theorem label?_setLabel : (world.setLabel mob label).label? other =
    if other = mob then label else world.label? other := by
  cases label with
  | none => exact Table.get?_erase
  | some text => exact Table.get?_insert

@[simp] theorem label?_createWarp : ((world.createWarp name owner).getD world).label? other =
    world.label? other := by
  unfold createWarp
  split <;> rfl

@[simp] theorem label?_removeWarp : ((world.removeWarp name).getD world).label? other =
    world.label? other := by
  unfold removeWarp
  split <;> rfl

@[simp] theorem rules_bind : (world.bind mob binding).rules = world.rules := rfl

@[simp] theorem rules_unbind : (world.unbind mob).rules = world.rules := rfl

@[simp] theorem rules_setLabel : (world.setLabel mob label).rules = world.rules := by
  cases label <;> rfl

@[simp] theorem rules_createWarp : ((world.createWarp name owner).getD world).rules =
    world.rules := by
  unfold createWarp
  split <;> rfl

@[simp] theorem rules_removeWarp : ((world.removeWarp name).getD world).rules = world.rules := by
  unfold removeWarp
  split <;> rfl

end Records

theorem owner?_of_createWarp {world after : World} {name : WarpName} {owner : String}
    (h : world.createWarp name owner = some after) (other : WarpName) :
    after.owner? other = if other = name then some owner else world.owner? other := by
  unfold createWarp at h
  split at h
  next => cases h
  next =>
    cases h
    exact Table.get?_insert

theorem owner?_of_removeWarp {world after : World} {name : WarpName}
    (h : world.removeWarp name = some after) (other : WarpName) :
    after.owner? other = if other = name then none else world.owner? other := by
  unfold removeWarp at h
  split at h
  next => cases h
  next =>
    cases h
    exact Table.get?_erase

end World
end InteractiveMobs
