import InteractiveMobs.Dispatch.Move

/-!
# Running actions

`run` checks an action, asks the hooks, and makes the moves. `interact` finds the action that
using a mob stands for, and `report` also tells the actor why an action was not done.
-/

namespace InteractiveMobs
set_option autoImplicit false

namespace Pending

/-- Asks hooks in order, numbered from `index`, until one vetoes: the questions put, and whether
all of them let the action pass. -/
def consult (pending : Pending) (index : Nat) : List Hook → List Call × Bool
  | [] => ([], true)
  | hook :: rest =>
    if hook pending then
      let (calls, allowed) := pending.consult (index + 1) rest
      (.hook index pending :: calls, allowed)
    else ([.hook index pending], false)

end Pending

/-- What running an action leads to. -/
structure Turn where
  result : Except Failure Outcome
  progress : Progress

namespace Scene

/-- Runs an action: checks, hooks, moves. -/
def run (scene : Scene) (hooks : List Hook) (action : Action) : Turn :=
  let started : Progress := {
    scene
    events := [Log.debug .actions "running action"
      [("kind", action.kind), ("actor", scene.actor.name)]] }
  match action.prepare scene.actor scene.world with
  | .error failure => ⟨.error failure, started.log (action.refusalEvents failure)⟩
  | .ok pending =>
    let (asked, allowed) := pending.consult 0 hooks
    let consulted := { started.log pending.events with calls := asked }
    if allowed then
      match Move.makeAll (pending.moves scene.world) consulted with
      | (progress, none) => ⟨.ok .completed, progress⟩
      | (progress, some failure) => ⟨.error failure, progress⟩
    else
      let cancelled := Log.debug .actions "event cancelled" [("kind", action.kind)]
      ⟨.ok .vetoed, consulted.log [cancelled]⟩

/-- Tells the actor why an action was not done, in the words of the messages now in force. A
message that cannot be rendered is left to the log. -/
def tellFailure (progress : Progress) (failure : Failure) : Progress :=
  match failure.userMessage with
  | none => progress
  | some (key, args) =>
    let asked := progress.log (progress.scene.messages.renderEvents key)
    match progress.scene.messages.render key args with
    | .ok text => asked.send text
    | .error error =>
      asked.log [Log.warn .actions "cannot report action error" [("key", key.text),
        ("error", error.message), ("action_error", failure.description)]]

/-- Runs an action and tells the actor of a failure; the result is that of the action. -/
def report (scene : Scene) (hooks : List Hook) (action : Action) : Turn :=
  let turn := scene.run hooks action
  match turn.result with
  | .error failure => ⟨turn.result, tellFailure turn.progress failure⟩
  | .ok _ => turn

/-- The action that the actor's using a mob stands for, if any. -/
def actionOn (scene : Scene) (mob : MobId) : Option Action :=
  match scene.actor.mode with
  | .creating binding => some (.create mob binding)
  | .removing => some (.remove mob)
  | .idle => (scene.world.binding? mob).map Binding.action

/-- Uses a mob. A creation or removal that completes uses up the actor's mode. -/
def interact (scene : Scene) (hooks : List Hook) (mob : MobId) : Option Turn :=
  (scene.actionOn mob).map fun action =>
    let turn := scene.run hooks action
    match turn.result with
    | .ok .completed =>
      if action.isEdit then ⟨turn.result, turn.progress.setMode .idle⟩ else turn
    | _ => turn

end Scene
end InteractiveMobs
