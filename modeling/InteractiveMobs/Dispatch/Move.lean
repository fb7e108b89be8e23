import InteractiveMobs.Catalog.MessageSet
import InteractiveMobs.Dispatch.Pending

/-!
# Moves

Carrying out an action is a list of moves, each one request to the host or one message to the
actor. A move that fails ends the list; what was done before it stays done. `Progress` keeps
the scene as it is by now, with every request made and every event logged on the way.
-/

namespace InteractiveMobs
set_option autoImplicit false

/-- Where an action takes place: its actor, the world, and the messages in force. -/
structure Scene where
  actor : Actor
  world : World
  messages : MessageSet

/-- A request made to a hook or to the host. -/
inductive Call where
  | hook (index : Nat) (pending : Pending)
  | send (text : String)
  | command (line : String)
  | teleport (name : WarpName)
  | setMode (mode : Mode)
  | setWarp (name : WarpName) (owner : String)
  | removeWarp (name : WarpName)
  | bind (mob : MobId) (binding : Binding)
  | unbind (mob : MobId)
  | setMobName (mob : MobId) (label : Option String)
  | loadMessages
deriving DecidableEq, Repr

/-- A scene, with the requests made and the events logged so far, oldest first. -/
structure Progress where
  scene : Scene
  calls : List Call := []
  events : List Log.Event := []

namespace Progress

/-- Records a request. -/
def call (progress : Progress) (request : Call) : Progress :=
  { progress with calls := progress.calls ++ [request] }

/-- Logs events. -/
def log (progress : Progress) (events : List Log.Event) : Progress :=
  { progress with events := progress.events ++ events }

/-- Changes the world. -/
def withWorld (progress : Progress) (world : World) : Progress :=
  { progress with scene := { progress.scene with world } }

/-- Changes the actor's mode, which the host keeps. -/
def setMode (progress : Progress) (mode : Mode) : Progress :=
  let scene := progress.scene
  { progress.call (.setMode mode) with scene := { scene with actor := { scene.actor with mode } } }

/-- Sends a text to the actor. -/
def send (progress : Progress) (text : String) : Progress := progress.call (.send text)

end Progress

/-- One move of an action. -/
inductive Move where
  /-- Runs a command line as the actor. -/
  | perform (line : String)
  | teleport (name : WarpName)
  | createWarp (name : WarpName) (owner : String)
  | removeWarp (name : WarpName)
  | enter (mode : Mode)
  | bind (mob : MobId) (binding : Binding)
  | unbind (mob : MobId)
  /-- Shows the label of a warp above a mob. -/
  | label (mob : MobId) (name : WarpName)
  | clearLabel (mob : MobId)
  /-- Reads the message configuration again and puts it in force. -/
  | reload
  /-- Sends a catalog message. -/
  | tell (key : MessageKey) (args : List String)
  /-- Sends a text as it is. -/
  | say (text : String)
  | note (event : Log.Event)

namespace Move

/-- Makes one move: what becomes of the scene, and why the action ends here if it does. -/
def make (move : Move) (progress : Progress) : Progress × Option Failure :=
  let scene := progress.scene
  match move with
  | perform line =>
    let asked := progress.call (.command line)
    if scene.actor.performs line then (asked, none)
    else (asked.log [Log.debug .actions "command execution failed"], some (.commandFailed line))
  | teleport name =>
    let asked := progress.call (.teleport name)
    if scene.actor.reaches name then (asked, none) else (asked, some (.teleportFailed name))
  | createWarp name owner =>
    let asked := progress.call (.setWarp name owner)
    match scene.world.createWarp name owner with
    | some world => (asked.withWorld world, none)
    | none => (asked, some (.warpExists name))
  | removeWarp name =>
    let asked := progress.call (.removeWarp name)
    match scene.world.removeWarp name with
    | some world => (asked.withWorld world, none)
    | none =>
      (asked.log [Log.debug .actions "warp vanished before removal" [("warp", name.text)]],
        some (.warpNotFound name))
  | enter mode => (progress.setMode mode, none)
  | bind mob binding =>
    ((progress.call (.bind mob binding)).withWorld (scene.world.bind mob binding), none)
  | unbind mob => ((progress.call (.unbind mob)).withWorld (scene.world.unbind mob), none)
  | label mob name =>
    let key : MessageKey := ⟨"mob-name-text"⟩
    let asked := progress.log (scene.messages.renderEvents key)
    match scene.messages.render key [name.text] with
    | .ok text =>
      ((asked.call (.setMobName mob (some text))).withWorld (scene.world.setLabel mob (some text)),
        none)
    | .error error => (asked, some (.message error))
  | clearLabel mob =>
    ((progress.call (.setMobName mob none)).withWorld (scene.world.setLabel mob none), none)
  | reload =>
    let asked := progress.call .loadMessages
    match scene.world.rules.configuration with
    | .ok config =>
      let messages := MessageSet.ofConfig config
      ({ asked.log [messages.reloadEvent] with scene := { scene with messages } }, none)
    | .error error =>
      (asked.log [Log.warn .actions "message reload failed" [("error", error.message)]],
        some (.reloadFailed error.message))
  | tell key args =>
    let asked := progress.log (scene.messages.renderEvents key)
    match scene.messages.render key args with
    | .ok text => (asked.send text, none)
    | .error error => (asked, some (.message error))
  | say text => (progress.send text, none)
  | note event => (progress.log [event], none)

/-- Makes moves in order until one fails. -/
def makeAll : List Move → Progress → Progress × Option Failure
  | [], progress => (progress, none)
  | move :: rest, progress =>
    match move.make progress with
    | (progress, none) => makeAll rest progress
    | (progress, some failure) => (progress, some failure)

end Move

/-- The moves that carry out a pending action in the given world. What can be refused comes
first, and the actor hears of it after it is done. -/
def Pending.moves (pending : Pending) (world : World) : List Move :=
  match pending.action with
  | .runCommand _ _ =>
    [.perform (pending.command.getD ""), .note (Log.debug .actions "command executed")]
  | .warp name =>
    [.teleport name, .tell ⟨"warp-success"⟩ [name.text],
      .note (Log.debug .actions "player warped" [("warp", name.text)])]
  | .setWarp name =>
    [.createWarp name pending.actor, .tell ⟨"warp-create-success"⟩ [name.text],
      .note (Log.debug .actions "warp created" [("warp", name.text)])]
  | .deleteWarp name =>
    [.removeWarp name, .tell ⟨"warp-delete-success"⟩ [name.text],
      .note (Log.debug .actions "warp deleted" [("warp", name.text)])]
  | .listWarps =>
    let names := world.warpNames.map (·.text)
    .tell ⟨"list-header"⟩ [toString names.length] ::
      if names.isEmpty then [] else [.say (", ".intercalate names)]
  | .startCreate binding =>
    [.enter (.creating binding), .tell ⟨"create-command"⟩ [], .tell ⟨"edit-cancel"⟩ []]
  | .startRemove =>
    [.enter .removing, .tell ⟨"remove-command"⟩ [], .tell ⟨"edit-cancel"⟩ []]
  | .cancel => [.enter .idle, .tell ⟨"cancel-success"⟩ []]
  | .create mob binding =>
    let labels := match binding with
      | .warp name => [Move.label mob name]
      | .command _ _ => []
    labels ++ [.bind mob binding, .tell ⟨"action-create-success"⟩ [],
      .note (Log.debug .actions "mob created" [("mob", mob.label)])]
  | .remove mob =>
    [.unbind mob, .clearLabel mob, .tell ⟨"action-remove-success"⟩ [],
      .note (Log.debug .actions "mob removed" [("mob", mob.label)])]
  | .reload => [.reload, .tell ⟨"reload-complete"⟩ []]

end InteractiveMobs
