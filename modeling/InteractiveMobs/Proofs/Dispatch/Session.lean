import InteractiveMobs.Dispatch.Server
import InteractiveMobs.Proofs.Dispatch.Course

/-!
# Sessions

A session is what happens at a server, one event after another. Actors ask for something, while
whatever hooks are registered by then; another document is put in force; and the host may change
its rules and what it grants to its actors, or put other actors and another world in their place.
In an orderly session the host does not do the last: only requests change the modes of actors and
the warps, bindings and labels of the world.

`Server.after` is the server at the end of a session, and `Server.exchanges` lists the requests
answered in it, each with the scene in which it was made. A request stands for an action, and
answering it runs that action and adds at most one more call (`answer_cases`).
-/

namespace InteractiveMobs
set_option autoImplicit false

/-! ## Answers -/

namespace Scene

/-- The action that a request stands for, if any. -/
def actionFor (scene : Scene) : Request → Option Action
  | .run action | .report action => some action
  | .interact mob => scene.actionOn mob

/-- How an action that a request stands for is answered: it is run, and then its failure may be
told, or its completion may use up the actor's mode. -/
inductive Answer (scene : Scene) (hooks : List Hook) (action : Action) : Turn → Prop where
  | plain : Answer scene hooks action (scene.run hooks action)
  | told {failure : Failure} (failed : (scene.run hooks action).result = .error failure) :
    Answer scene hooks action
      ⟨(scene.run hooks action).result, tellFailure (scene.run hooks action).progress failure⟩
  | edited (completed : (scene.run hooks action).result = .ok .completed) :
    Answer scene hooks action
      ⟨(scene.run hooks action).result, (scene.run hooks action).progress.setMode .idle⟩

theorem answer_cases {scene : Scene} {hooks : List Hook} {request : Request} {turn : Turn}
    (h : scene.answer hooks request = some turn) :
    ∃ action, scene.actionFor request = some action ∧ scene.Answer hooks action turn := by
  cases request with
  | run action =>
    cases h
    exact ⟨action, rfl, .plain⟩
  | report action =>
    cases h
    refine ⟨action, rfl, ?_⟩
    unfold report
    dsimp only
    split
    next failure failed => exact .told failed
    next => exact .plain
  | interact mob =>
    obtain ⟨action, stands, rfl⟩ := Option.map_eq_some_iff.1 h
    refine ⟨action, stands, ?_⟩
    dsimp only
    split
    next completed =>
      split
      · exact .edited completed
      · exact .plain
    next => exact .plain

/-- A request that stands for an action is answered. -/
theorem exists_answer {scene : Scene} {request : Request} {action : Action}
    (stands : scene.actionFor request = some action) (hooks : List Hook) :
    ∃ turn, scene.answer hooks request = some turn ∧ scene.Answer hooks action turn := by
  have answered : ∃ turn, scene.answer hooks request = some turn := by
    cases request with
    | run action => exact ⟨_, rfl⟩
    | report action => exact ⟨_, rfl⟩
    | interact mob => exact ⟨_, Option.map_eq_some_iff.2 ⟨action, stands, rfl⟩⟩
  obtain ⟨turn, answered⟩ := answered
  obtain ⟨action', stands', answer⟩ := answer_cases answered
  cases stands.symm.trans stands'
  exact ⟨turn, answered, answer⟩

theorem scene_tellFailure (progress : Progress) (failure : Failure) :
    (tellFailure progress failure).scene = progress.scene := by
  unfold tellFailure
  split
  next => rfl
  next =>
    dsimp only
    split <;> rfl

theorem scene_report (scene : Scene) (hooks : List Hook) (action : Action) :
    (scene.report hooks action).progress.scene = (scene.run hooks action).progress.scene := by
  unfold report
  dsimp only
  split
  · exact scene_tellFailure _ _
  · rfl

/-- Telling a failure sends one text at most: what the messages have for it. -/
theorem calls_tellFailure (progress : Progress) (failure : Failure) :
    ∃ told, (tellFailure progress failure).calls = progress.calls ++ told ∧
      (told = [] ∨ ∃ text, told = [.send text]) ∧
      ∀ text, told = [.send text] ↔ ∃ key args, failure.userMessage = some (key, args) ∧
        progress.scene.messages.render key args = .ok text := by
  unfold tellFailure
  cases words : failure.userMessage with
  | none => exact ⟨[], by simp, .inl rfl, by simp⟩
  | some message =>
    obtain ⟨key, args⟩ := message
    dsimp only
    cases rendered : progress.scene.messages.render key args with
    | error error =>
      exact ⟨[], by simp [Progress.log], .inl rfl, by simp [and_assoc, rendered]⟩
    | ok text => exact ⟨[.send text], rfl, .inr ⟨text, rfl⟩, by simp [and_assoc, rendered]⟩

namespace Answer

variable {scene : Scene} {hooks : List Hook} {action : Action} {turn : Turn}

/-- The result of an answer is that of the action. -/
theorem result_eq (h : scene.Answer hooks action turn) :
    turn.result = (scene.run hooks action).result := by
  cases h <;> rfl

theorem world_eq (h : scene.Answer hooks action turn) :
    turn.progress.scene.world = (scene.run hooks action).progress.scene.world := by
  cases h with
  | plain => rfl
  | told => rw [scene_tellFailure]
  | edited => rfl

theorem messages_eq (h : scene.Answer hooks action turn) :
    turn.progress.scene.messages = (scene.run hooks action).progress.scene.messages := by
  cases h with
  | plain => rfl
  | told => rw [scene_tellFailure]
  | edited => rfl

/-- What an answer adds to the calls of the action. -/
theorem calls_eq (h : scene.Answer hooks action turn) :
    ∃ added, turn.progress.calls = (scene.run hooks action).progress.calls ++ added ∧
      (added = [] ∨ (∃ text, added = [.send text]) ∨ added = [.setMode .idle]) := by
  cases h with
  | plain => exact ⟨[], by simp, .inl rfl⟩
  | @told failure failed =>
    obtain ⟨told, calls, none | sent, -⟩ :=
      calls_tellFailure (scene.run hooks action).progress failure
    · exact ⟨told, calls, .inl none⟩
    · exact ⟨told, calls, .inr (.inl sent)⟩
  | edited => exact ⟨[.setMode .idle], rfl, .inr (.inr rfl)⟩

end Answer
end Scene

/-! ## Events -/

/-- A request that was answered: the hooks and the scene it met, and what came of it. -/
structure Exchange where
  hooks : List Hook
  scene : Scene
  request : Request
  turn : Turn

namespace Server

/-- What happens at a server. -/
inductive Event where
  /-- An actor asks for something while the hooks are registered. -/
  | ask (hooks : List Hook) (index : Nat) (request : Request)
  /-- Another document is put in force. -/
  | load (config : Config)
  /-- The host changes what it grants to actors, and its rules. -/
  | regulate (grant : Actor → Actor) (rules : HostRules)
  /-- The host puts other actors and another world in their place. -/
  | replace (actors : List Actor) (world : World)

/-- The host does not change modes or the records of the world by itself. -/
def Event.IsOrderly : Event → Prop
  | ask _ _ _ | load _ | regulate _ _ => True
  | replace _ _ => False

/-- The server under other rules. Modes are left as they are. -/
def regulate (server : Server) (grant : Actor → Actor) (rules : HostRules) : Server where
  actors := server.actors.map fun actor => { grant actor with mode := actor.mode }
  world := { server.world with rules }
  messages := server.messages

/-- The server after an event. -/
def next (server : Server) : Event → Server
  | .ask hooks index request => (server.step hooks index request).1
  | .load config => server.load config
  | .regulate grant rules => server.regulate grant rules
  | .replace actors world => { server with actors, world }

/-- The request answered at an event, if there is one. -/
def exchange? (server : Server) : Event → Option Exchange
  | .ask hooks index request =>
    match server.scene? index, (server.step hooks index request).2 with
    | some scene, some turn => some { hooks, scene, request, turn }
    | _, _ => none
  | .load _ | .regulate _ _ | .replace _ _ => none

/-- The server at the end of a session. -/
def after (server : Server) (events : List Event) : Server := events.foldl next server

/-- The world is so from the start of a session to its end. -/
def Throughout (server : Server) (events : List Event) (so : World → Prop) : Prop :=
  ∀ past, past <+: events → so (server.after past).world

/-- The requests answered in a session, oldest first. -/
def exchanges (server : Server) : List Event → List Exchange
  | [] => []
  | event :: rest => (server.exchange? event).toList ++ (server.next event).exchanges rest

/-- The calls made in a session, oldest first. -/
def calls (server : Server) (events : List Event) : List Call :=
  (server.exchanges events).flatMap (·.turn.progress.calls)

theorem after_append (server : Server) (first rest : List Event) :
    server.after (first ++ rest) = (server.after first).after rest := List.foldl_append

theorem Throughout.tail {server : Server} {event : Event} {rest : List Event} {so : World → Prop}
    (h : server.Throughout (event :: rest) so) : (server.next event).Throughout rest so :=
  fun past within => h (event :: past) ((List.prefix_cons_inj event).2 within)

theorem Throughout.nil {server : Server} {so : World → Prop} (h : so server.world) :
    server.Throughout [] so := by
  intro past within
  rw [List.prefix_nil.1 within]
  exact h

theorem Throughout.cons {server : Server} {event : Event} {rest : List Event} {so : World → Prop}
    (here : so server.world) (later : (server.next event).Throughout rest so) :
    server.Throughout (event :: rest) so := by
  intro past within
  cases past with
  | nil => exact here
  | cons other past =>
    obtain ⟨rfl, inside⟩ := List.cons_prefix_cons.1 within
    exact later past inside

theorem Throughout.start {server : Server} {events : List Event} {so : World → Prop}
    (h : server.Throughout events so) : so server.world := h [] List.nil_prefix

/-- Where a request is answered, the exchange begins and ends with the server's own world and
messages. -/
structure Hosts (server : Server) (event : Event) (exchange : Exchange) : Prop where
  answered : exchange.scene.answer exchange.hooks exchange.request = some exchange.turn
  world : exchange.scene.world = server.world
  messages : exchange.scene.messages = server.messages
  world_next : (server.next event).world = exchange.turn.progress.scene.world
  messages_next : (server.next event).messages = exchange.turn.progress.scene.messages

theorem hosts_of_exchange? {server : Server} {event : Event} {exchange : Exchange}
    (h : server.exchange? event = some exchange) : server.Hosts event exchange := by
  cases event with
  | load config => cases h
  | regulate grant rules => cases h
  | replace actors world => cases h
  | ask hooks index request =>
    unfold exchange? at h
    dsimp only at h
    split at h
    next scene turn asks answered =>
      cases h
      obtain ⟨actor, -, rfl⟩ := Option.map_eq_some_iff.1 asks
      simp only [step, asks] at answered
      split at answered
      next => cases answered
      next turn' same =>
        cases answered
        refine ⟨same, rfl, rfl, ?_, ?_⟩ <;> simp [next, step, asks, same, leave]
    next => cases h

/-- A request that is not answered leaves the server as it is. -/
theorem step_of_silent {server : Server} {hooks : List Hook} {index : Nat} {request : Request}
    (h : server.exchange? (.ask hooks index request) = none) :
    (server.step hooks index request).1 = server := by
  unfold exchange? at h
  dsimp only at h
  unfold step at h ⊢
  split
  next => rfl
  next scene asks =>
    rw [asks] at h
    dsimp only at h ⊢
    split
    next => rfl
    next turn answered =>
      rw [answered] at h
      cases h

/-- Where no request is answered, only the host's rules may change in the world, if the host is
orderly. -/
theorem world_next_of_silent {server : Server} {event : Event} (orderly : event.IsOrderly)
    (h : server.exchange? event = none) :
    (server.next event).world = { server.world with rules := (server.next event).world.rules } := by
  cases event with
  | load config => rfl
  | regulate grant rules => rfl
  | replace actors world => exact orderly.elim
  | ask hooks index request => rw [next, step_of_silent h]

/-- Every exchange of a session is one of a server met on the way. -/
theorem exists_of_mem_exchanges {server : Server} {events : List Event} {exchange : Exchange}
    (h : exchange ∈ server.exchanges events) :
    ∃ first event rest, events = first ++ event :: rest ∧
      (server.after first).exchange? event = some exchange := by
  induction events generalizing server with
  | nil => cases h
  | cons event rest ih =>
    rw [exchanges, List.mem_append, Option.mem_toList] at h
    rcases h with here | later
    · exact ⟨[], event, rest, rfl, here⟩
    · obtain ⟨first, found, behind, rfl, met⟩ := ih later
      exact ⟨event :: first, found, behind, rfl, met⟩

end Server
end InteractiveMobs
