import InteractiveMobs.Names

/-!
# Actions

What an actor can ask for, what an interactive mob does, and the capability each action needs.
-/

namespace InteractiveMobs
set_option autoImplicit false

/-- The number the host gave to a mob. -/
structure MobId where
  number : Nat
deriving DecidableEq, Repr, Inhabited

namespace MobId

instance : Ord MobId := ⟨fun a b => compare a.number b.number⟩

instance : Std.TransOrd MobId := transOrd_onto MobId.number

instance : Std.LawfulEqOrd MobId :=
  lawfulEqOrd_onto MobId.number fun {a b} h => by cases a; cases b; exact congrArg mk h

/-- A mob as logs name it. -/
def label (mob : MobId) : String := s!"mob#{mob.number}"

end MobId

/-- What an interactive mob does for the player who uses it. -/
inductive Binding where
  /-- Runs a command line; its one token takes the player's name. -/
  | command (name line : String)
  /-- Takes the player to a warp. -/
  | warp (name : WarpName)
deriving DecidableEq, Repr

/-- What an actor's next use of a mob does. -/
inductive Mode where
  /-- It runs the mob's binding. -/
  | idle
  /-- It gives the mob a binding. -/
  | creating (binding : Binding)
  /-- It takes the mob's binding away. -/
  | removing
deriving DecidableEq, Repr, Inhabited

/-- What an actor can ask for. -/
inductive Action where
  | runCommand (name line : String)
  | warp (name : WarpName)
  | setWarp (name : WarpName)
  | deleteWarp (name : WarpName)
  | listWarps
  /-- Makes the next use of a mob a creation. -/
  | startCreate (binding : Binding)
  /-- Makes the next use of a mob a removal. -/
  | startRemove
  /-- Leaves either of these modes. -/
  | cancel
  | create (mob : MobId) (binding : Binding)
  | remove (mob : MobId)
  /-- Reads the message catalog again. -/
  | reload
deriving DecidableEq, Repr

/-- The action an idle use of a mob with the binding asks for. -/
def Binding.action : Binding → Action
  | command name line => .runCommand name line
  | warp name => .warp name

/-- A right that an actor may hold. -/
inductive Capability where
  | runCommand (name : String)
  | useWarp (name : WarpName)
  | setWarp
  | removeWarp
  | listWarps
  | create
  | remove
  | reload
deriving DecidableEq, Repr

/-- The capability as administrators write it. -/
def Capability.label : Capability → String
  | runCommand name => "command." ++ name
  | useWarp name => "warp." ++ name.text
  | setWarp => "setwarp"
  | removeWarp => "delwarp"
  | listWarps => "list"
  | create => "create"
  | remove => "remove"
  | reload => "reload"

namespace Action

/-- The capability the actor has to hold. Anyone may cancel. -/
def capability : Action → Option Capability
  | runCommand name _ => some (.runCommand name)
  | warp name => some (.useWarp name)
  | setWarp _ => some .setWarp
  | deleteWarp _ => some .removeWarp
  | listWarps => some .listWarps
  | startCreate _ => some .create
  | startRemove => some .remove
  | cancel => none
  | create _ _ => some .create
  | remove _ => some .remove
  | reload => some .reload

/-- Whether the action needs a player and not the console. -/
def requiresPlayer : Action → Bool
  | runCommand _ _ | deleteWarp _ | listWarps | reload => false
  | _ => true

/-- The word for the action in logs. -/
def kind : Action → String
  | runCommand _ _ => "command"
  | warp _ => "warp"
  | setWarp _ => "set-warp"
  | deleteWarp _ => "delete-warp"
  | listWarps => "list-warps"
  | startCreate _ => "start-create"
  | startRemove => "start-remove"
  | cancel => "cancel"
  | create _ _ => "create"
  | remove _ => "remove"
  | reload => "reload"

/-- Whether the action uses up the mode of an actor who reached it through a mob. -/
def isEdit : Action → Bool
  | create _ _ | remove _ => true
  | _ => false

end Action
end InteractiveMobs
