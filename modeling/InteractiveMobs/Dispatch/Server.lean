import InteractiveMobs.Dispatch.Run

/-!
# Servers

Several actors share one world and one message set. A server answers their requests one at a
time; each request sees its own actor, the world and the messages as the last one left them.
-/

namespace InteractiveMobs
set_option autoImplicit false

/-- The actors, the world they share, and the messages in force. -/
structure Server where
  actors : List Actor
  world : World
  messages : MessageSet

/-- What an actor may ask of a server. -/
inductive Request where
  | run (action : Action)
  | report (action : Action)
  | interact (mob : MobId)
deriving DecidableEq, Repr

namespace Scene

/-- Answers a request; using a mob that does nothing is answered by nothing. -/
def answer (scene : Scene) (hooks : List Hook) : Request → Option Turn
  | .run action => some (scene.run hooks action)
  | .report action => some (scene.report hooks action)
  | .interact mob => scene.interact hooks mob

end Scene

namespace Server

/-- The scene in which the actor of the given index asks. -/
def scene? (server : Server) (index : Nat) : Option Scene :=
  server.actors[index]?.map fun actor =>
    { actor, world := server.world, messages := server.messages }

/-- The server after the actor of the given index acted in a scene. -/
def leave (server : Server) (index : Nat) (scene : Scene) : Server where
  actors := server.actors.set index scene.actor
  world := scene.world
  messages := scene.messages

/-- Answers a request of one actor. -/
def step (server : Server) (hooks : List Hook) (index : Nat) (request : Request) :
    Server × Option Turn :=
  match server.scene? index with
  | none => (server, none)
  | some scene =>
    match scene.answer hooks request with
    | none => (server, none)
    | some turn => (server.leave index turn.progress.scene, some turn)

/-- Puts another document in force without asking anyone. -/
def load (server : Server) (config : Config) : Server :=
  { server with messages := .ofConfig config }

end Server
end InteractiveMobs
