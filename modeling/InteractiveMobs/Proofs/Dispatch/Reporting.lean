import InteractiveMobs.Proofs.Dispatch.Session

/-!
# Reports

Reporting an action is running it, and then telling the actor of its failure. The words for the
failure are sought among the messages in force behind the action, and where there are none, or they
cannot be rendered, nothing is told (`Turn.Words`). Main statement: a report has the result, the
scene and the calls of the run, with at most one text behind them; so a session leads to the same
server whether actions are reported or only run.
-/

namespace InteractiveMobs
set_option autoImplicit false

namespace Turn

/-- The turn has failed, and the text is what its last messages say of that. -/
def Words (turn : Turn) (text : String) : Prop :=
  ∃ failure key args, turn.result = .error failure ∧ failure.userMessage = some (key, args) ∧
    turn.progress.scene.messages.render key args = .ok text

/-- The other turn is this one with a report behind it. -/
structure Reports (turn other : Turn) : Prop where
  result : other.result = turn.result
  scene : other.progress.scene = turn.progress.scene
  calls : ∃ told, other.progress.calls = turn.progress.calls ++ told ∧
    (told = [] ∨ ∃ text, told = [.send text]) ∧ ∀ text, told = [.send text] ↔ turn.Words text

end Turn

namespace Scene

theorem report_reports (scene : Scene) (hooks : List Hook) (action : Action) :
    (scene.run hooks action).Reports (scene.report hooks action) := by
  refine ⟨?_, scene_report scene hooks action, ?_⟩
  · unfold report
    dsimp only
    split <;> rfl
  · unfold report
    dsimp only
    cases result : (scene.run hooks action).result with
    | ok outcome => exact ⟨[], by simp, .inl rfl, by simp [Turn.Words, result]⟩
    | error failure =>
      obtain ⟨told, calls, few, words⟩ :=
        calls_tellFailure (scene.run hooks action).progress failure
      exact ⟨told, calls, few, fun text => by simp [words, Turn.Words, result]⟩

end Scene

/-- What a request met, and what came of it. -/
def Exchange.outcome (exchange : Exchange) : List Hook × Scene × Except Failure Outcome :=
  (exchange.hooks, exchange.scene, exchange.turn.result)

namespace Server

/-- The event without the report in it. -/
def Event.unreported : Event → Event
  | ask hooks index (.report action) => ask hooks index (.run action)
  | event => event

/-- Whether an action is reported makes no difference to the server, nor to the outcome. -/
theorem unreported_next (server : Server) (event : Event) :
    server.next event.unreported = server.next event ∧
      (server.exchange? event.unreported).map Exchange.outcome =
        (server.exchange? event).map Exchange.outcome := by
  unfold Event.unreported
  split
  next hooks index action =>
    simp only [next, exchange?, step, Scene.answer]
    cases server.scene? index with
    | none => exact ⟨rfl, rfl⟩
    | some scene =>
      have reports := scene.report_reports hooks action
      simp only [reports.scene, Option.map_some, Exchange.outcome, reports.result, and_self]
  next => exact ⟨rfl, rfl⟩

theorem unreported_after (server : Server) (events : List Event) :
    server.after (events.map Event.unreported) = server.after events ∧
      (server.exchanges (events.map Event.unreported)).map Exchange.outcome =
        (server.exchanges events).map Exchange.outcome := by
  induction events generalizing server with
  | nil => exact ⟨rfl, rfl⟩
  | cons event rest ih =>
    obtain ⟨same, met⟩ := unreported_next server event
    obtain ⟨left, later⟩ := ih (server.next event)
    constructor
    · show (server.next event.unreported).after (rest.map Event.unreported) = _
      rw [same]
      exact left
    · simp only [List.map_cons, exchanges, List.map_append, ← Option.toList_map, met, same, later]

/-- **A report adds words and nothing else.** Reporting an action has the result, the scene and the
calls of running it, but that the words for its failure are sent behind them, if the messages then
in force have such words. So a session in which actions are reported leads to the same server as
the session in which they are only run, and every request in it has the same outcome. -/
theorem report_only_tells :
    (∀ (scene : Scene) (hooks : List Hook) (action : Action),
      (scene.run hooks action).Reports (scene.report hooks action)) ∧
    ∀ (server : Server) (events : List Event),
      server.after (events.map Event.unreported) = server.after events ∧
        (server.exchanges (events.map Event.unreported)).map Exchange.outcome =
          (server.exchanges events).map Exchange.outcome :=
  ⟨Scene.report_reports, unreported_after⟩

end Server
end InteractiveMobs
