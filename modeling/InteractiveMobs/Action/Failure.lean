import InteractiveMobs.Action.Basic
import InteractiveMobs.Template.Render

/-!
# Failures

Why an action was not done, what is said about it, and the catalog message that tells the actor.
-/

namespace InteractiveMobs
set_option autoImplicit false

/-- What becomes of an action that passed every check. -/
inductive Outcome where
  | completed
  /-- A hook rejected the action, and nothing was done. -/
  | vetoed
deriving DecidableEq, Repr

/-- Why an action was not done. -/
inductive Failure where
  | permission (capability : Capability)
  | playerOnly
  | warpNotFound (name : WarpName)
  | warpExists (name : WarpName)
  /-- The mob has a binding already. -/
  | alreadyInteractive
  | notInteractive
  | nothingToCancel
  /-- The host rejected the command line. -/
  | commandFailed (line : String)
  | teleportFailed (name : WarpName)
  | reloadFailed (reason : String)
  /-- A message could not be rendered. -/
  | message (error : MessageError)
deriving DecidableEq, Repr

namespace Failure

/-- The text of a failure. -/
def description : Failure → String
  | permission capability => "missing permission '" ++ capability.label ++ "'"
  | playerOnly => "only players can do this"
  | warpNotFound name => "warp '" ++ name.text ++ "' not found"
  | warpExists name => "warp '" ++ name.text ++ "' already exists"
  | alreadyInteractive => "mob is already interactive"
  | notInteractive => "mob is not interactive"
  | nothingToCancel => "nothing to cancel"
  | commandFailed line => "command '" ++ line ++ "' failed"
  | teleportFailed name => "teleport to '" ++ name.text ++ "' failed"
  | reloadFailed reason => "reload failed: " ++ reason
  | message error => "message error: " ++ error.message

/-- The catalog message for the actor, with its arguments, if there is one for the failure. -/
def userMessage : Failure → Option (MessageKey × List String)
  | permission capability => some (⟨"permission-error"⟩, [capability.label])
  | playerOnly => some (⟨"console-command-error"⟩, [])
  | warpNotFound name => some (⟨"warp-not-found"⟩, [name.text])
  | warpExists name => some (⟨"warp-exists-error"⟩, [name.text])
  | alreadyInteractive => some (⟨"mob-exists-error"⟩, [])
  | notInteractive => some (⟨"mob-not-interactive-error"⟩, [])
  | nothingToCancel => some (⟨"cancel-error"⟩, [])
  | commandFailed line => some (⟨"command-failed"⟩, [line])
  | reloadFailed _ => some (⟨"reload-error"⟩, [])
  | teleportFailed _ | message _ => none

end Failure
end InteractiveMobs
