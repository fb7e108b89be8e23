import InteractiveMobs.Action.Failure
import InteractiveMobs.Log
import InteractiveMobs.Template.Compile
import InteractiveMobs.World

/-!
# Pending actions

Before anything is done, an action is checked against its actor and the world, in this order:
a player where one is needed, the capability, the state of what it works on, and the rendering
of its command line. What passes is pending: hooks may still veto it. Checking only looks.
-/

namespace InteractiveMobs
set_option autoImplicit false

/-- An action that passed its checks, as hooks see it. -/
structure Pending where
  /-- The actor's name. -/
  actor : String
  action : Action
  /-- The rendered command line, where the action runs one. -/
  command : Option String
deriving DecidableEq, Repr

/-- A hook lets a pending action pass or vetoes it. -/
abbrev Hook := Pending → Bool

namespace Action

/-- Whether the actor may ask for the action at all. -/
def checkActor (action : Action) (actor : Actor) : Except Failure Unit :=
  if action.requiresPlayer && !actor.isPlayer then .error .playerOnly
  else match action.capability with
    | some capability => if actor.holds capability then .ok () else .error (.permission capability)
    | none => .ok ()

/-- Whether warps, mobs and the actor's mode are as the action needs them. -/
def checkState (action : Action) (actor : Actor) (world : World) : Except Failure Unit :=
  match action with
  | .warp name | .deleteWarp name | .startCreate (.warp name) =>
    if world.hasWarp name then .ok () else .error (.warpNotFound name)
  | .setWarp name => if world.hasWarp name then .error (.warpExists name) else .ok ()
  | .create mob _ => if (world.binding? mob).isSome then .error .alreadyInteractive else .ok ()
  | .remove mob => if (world.binding? mob).isSome then .ok () else .error .notInteractive
  | .cancel => if actor.mode = .idle then .error .nothingToCancel else .ok ()
  | .runCommand _ _ | .startCreate (.command _ _) | .startRemove | .listWarps | .reload => .ok ()

/-- The command line of an action that runs one, with the actor's name in its token. -/
def renderCommand (action : Action) (actor : Actor) : Except Failure (Option String) :=
  match action with
  | .runCommand _ line =>
    match (Template.compile line).render [actor.name] with
    | .ok text => .ok (some text)
    | .error error => .error (.message error)
  | _ => .ok none

/-- The action as pending, if it passes every check. -/
def prepare (action : Action) (actor : Actor) (world : World) : Except Failure Pending := do
  action.checkActor actor
  action.checkState actor world
  let command ← action.renderCommand actor
  return { actor := actor.name, action, command }

/-- What an action that fails a check leaves in the log. -/
def refusalEvents (action : Action) : Failure → List Log.Event
  | .playerOnly => [Log.debug .actions "console cannot run this action" [("kind", action.kind)]]
  | .permission capability =>
    [Log.debug .actions "permission error" [("capability", capability.label)]]
  | .warpNotFound name => [Log.debug .actions "warp not found" [("warp", name.text)]]
  | .warpExists name => [Log.debug .actions "warp already exists" [("warp", name.text)]]
  | .alreadyInteractive =>
    match action with
    | .create mob _ => [Log.debug .actions "found existing mob" [("mob", mob.label)]]
    | _ => []
  | .notInteractive =>
    match action with
    | .remove mob => [Log.debug .actions "mob is not interactive" [("mob", mob.label)]]
    | _ => []
  | _ => []

end Action

/-- What a pending action leaves in the log: its command line. -/
def Pending.events (pending : Pending) : List Log.Event :=
  match pending.command with
  | some line => [Log.debug .actions "rendered command" [("command", line)]]
  | none => []

end InteractiveMobs
