import InteractiveMobs.Proofs.Catalog.Adequacy
import InteractiveMobs.Proofs.Dispatch.Authorization
import InteractiveMobs.Proofs.Dispatch.Refusal

/-!
# Actions have words

What actions and their failures say is served by the default catalog: `served_moves` and
`userMessage_served` go through all of it. So they can say it from every adequate message set,
and if the configurations that the host finds are adequate too, the messages stay so when an
action reads them again half-way. `Server.wording_suffices` says what this means for a session:
no message is missing but for a command line that asks for more than one name, and whoever
reports an action hears of its failure.
-/

namespace InteractiveMobs
set_option autoImplicit false

/-! ## What is said -/

/-- The default catalog serves what the move renders, if it renders anything. -/
def Move.Served : Move → Prop
  | tell key args => Defaults.Serves key args.length
  | label _ _ => Defaults.Serves ⟨"mob-name-text"⟩ 1
  | _ => True

theorem Pending.served_moves (pending : Pending) (world : World) :
    ∀ move ∈ pending.moves world, move.Served := by
  obtain ⟨actor, action, command⟩ := pending
  cases action <;> simp only [moves, List.forall_mem_append, List.forall_mem_cons]
  case runCommand => exact ⟨trivial, trivial, nofun⟩
  case warp => exact ⟨trivial, (by decide +kernel : Defaults.Serves _ 1), trivial, nofun⟩
  case setWarp => exact ⟨trivial, (by decide +kernel : Defaults.Serves _ 1), trivial, nofun⟩
  case deleteWarp => exact ⟨trivial, (by decide +kernel : Defaults.Serves _ 1), trivial, nofun⟩
  case listWarps =>
    refine ⟨(by decide +kernel : Defaults.Serves _ 1), ?_⟩
    split
    · exact nofun
    · exact List.forall_mem_singleton.2 trivial
  case startCreate =>
    exact ⟨trivial, (by decide +kernel : Defaults.Serves _ 0),
      (by decide +kernel : Defaults.Serves _ 0), nofun⟩
  case startRemove =>
    exact ⟨trivial, (by decide +kernel : Defaults.Serves _ 0),
      (by decide +kernel : Defaults.Serves _ 0), nofun⟩
  case cancel => exact ⟨trivial, (by decide +kernel : Defaults.Serves _ 0), nofun⟩
  case create mob binding =>
    refine ⟨?_, trivial, (by decide +kernel : Defaults.Serves _ 0), trivial, nofun⟩
    cases binding with
    | command name line => exact nofun
    | warp name =>
      exact List.forall_mem_singleton.2
        (by decide +kernel : Defaults.Serves ⟨"mob-name-text"⟩ 1)
  case remove =>
    exact ⟨trivial, trivial, (by decide +kernel : Defaults.Serves _ 0), trivial, nofun⟩
  case reload => exact ⟨trivial, (by decide +kernel : Defaults.Serves _ 0), nofun⟩

/-- There are words for every failure but that of a message or of a teleport. -/
theorem Failure.userMessage_served {failure : Failure} (spoken : ∀ error, failure ≠ .message error)
    (arrived : ∀ name, failure ≠ .teleportFailed name) :
    ∃ key args, failure.userMessage = some (key, args) ∧ Defaults.Serves key args.length := by
  cases failure
  case permission => exact ⟨_, _, rfl, (by decide +kernel : Defaults.Serves _ 1)⟩
  case playerOnly => exact ⟨_, _, rfl, (by decide +kernel : Defaults.Serves _ 0)⟩
  case warpNotFound => exact ⟨_, _, rfl, (by decide +kernel : Defaults.Serves _ 1)⟩
  case warpExists => exact ⟨_, _, rfl, (by decide +kernel : Defaults.Serves _ 1)⟩
  case alreadyInteractive => exact ⟨_, _, rfl, (by decide +kernel : Defaults.Serves _ 0)⟩
  case notInteractive => exact ⟨_, _, rfl, (by decide +kernel : Defaults.Serves _ 0)⟩
  case nothingToCancel => exact ⟨_, _, rfl, (by decide +kernel : Defaults.Serves _ 0)⟩
  case commandFailed => exact ⟨_, _, rfl, (by decide +kernel : Defaults.Serves _ 1)⟩
  case teleportFailed name => exact absurd rfl (arrived name)
  case reloadFailed => exact ⟨_, _, rfl, (by decide +kernel : Defaults.Serves _ 0)⟩
  case message error => exact absurd rfl (spoken error)

/-! ## Adequate scenes -/

/-- Every configuration that the host finds is adequate. -/
def HostRules.Adequate (rules : HostRules) : Prop :=
  ∀ config, rules.configuration = .ok config → (MessageSet.ofConfig config).Adequate

/-- There are words for everything, and will be after a reload. -/
structure Scene.Adequate (scene : Scene) : Prop where
  messages : scene.messages.Adequate
  rules : scene.world.rules.Adequate

namespace Move

theorem rules_effect (move : Move) (scene : Scene) :
    (move.effect scene).world.rules = scene.world.rules := by
  cases move <;> simp only [effect, World.rules_createWarp, World.rules_removeWarp,
    World.rules_bind, World.rules_unbind, World.rules_setLabel]
  case label => split <;> simp
  case reload => split <;> rfl

/-- A move puts only what the host finds in force. -/
theorem adequate_effect {scene : Scene} (adequate : scene.Adequate) (move : Move) :
    (move.effect scene).Adequate := by
  refine ⟨?_, (rules_effect move scene).symm ▸ adequate.rules⟩
  cases move <;> simp only [effect]
  case reload =>
    split
    next config read => exact adequate.rules config read
    next => exact adequate.messages
  case label => split <;> exact adequate.messages
  all_goals exact adequate.messages

theorem make_ne_message {move : Move} (served : move.Served) {p : Progress}
    (adequate : p.scene.Adequate) (error : MessageError) :
    (move.make p).2 ≠ some (.message error) := by
  intro failed
  rcases (make_failed (Prod.ext rfl failed)).2 with ⟨-, request, refused, -⟩ | ⟨renders, -⟩
  · cases refused
  · cases move with
    | tell key args =>
      obtain ⟨text, rendered⟩ := adequate.messages.render_ok served
      simp [make, rendered] at failed
    | label mob name =>
      obtain ⟨text, rendered⟩ := @MessageSet.Adequate.render_ok _ adequate.messages _ [name.text]
        served
      simp [make, rendered] at failed
    | _ => cases renders

/-- Moves whose words are served fail over no message, and words are served behind them. -/
theorem makeAll_served {moves : List Move} (served : ∀ move ∈ moves, move.Served) {p : Progress}
    (adequate : p.scene.Adequate) :
    (makeAll moves p).1.scene.Adequate ∧ ∀ error, (makeAll moves p).2 ≠ some (.message error) := by
  induction moves generalizing p with
  | nil => exact ⟨adequate, nofun⟩
  | cons move rest ih =>
    have left : (move.make p).1.scene.Adequate := scene_make move p ▸ adequate_effect adequate move
    have spoken := make_ne_message (served move List.mem_cons_self) adequate
    rw [makeAll_cons]
    split
    next q made =>
      rw [made] at left
      exact ih (fun other mem => served other (List.mem_cons_of_mem _ mem)) left
    next q failure failed =>
      rw [failed] at left spoken
      exact ⟨left, spoken⟩

end Move

/-! ## Answers in adequate scenes -/

/-- Whether a call sends a text to the actor. -/
def Call.isSend : Call → Bool
  | send _ => true
  | _ => false

theorem Call.isSend_iff {call : Call} : call.isSend = true ↔ ∃ text, call = .send text := by
  cases call <;> simp [isSend]

namespace Scene.Adequate

variable {scene : Scene} {hooks : List Hook} {action : Action}

/-- Running an action leaves words for everything; it fails over a message only if that is its own
command line, which is given one name. -/
theorem run_served (adequate : scene.Adequate) :
    (scene.run hooks action).progress.scene.Adequate ∧
      ∀ error, (scene.run hooks action).result = .error (.message error) →
        ∃ name line, action = .runCommand name line ∧ 2 ≤ (Template.compile line).tokenCount ∧
          error = .argumentCount (Template.compile line).tokenCount 1 := by
  have course := scene.run_course hooks action
  generalize scene.run hooks action = turn at course ⊢
  cases course with
  | unprepared checked same =>
    refine ⟨same.symm ▸ adequate, fun error failed => ?_⟩
    cases failed
    cases Action.obstacle_of_prepare checked with
    | unrendered failed => exact ⟨_, _, rfl, Template.render_eq_error_iff.1 failed⟩
  | vetoed _ _ same => exact ⟨same.symm ▸ adequate, nofun⟩
  | @completed pending start _ _ _ same _ made =>
    have left := (Move.makeAll_served (pending.served_moves scene.world)
      (same.symm ▸ adequate : start.scene.Adequate)).1
    rw [made] at left
    exact ⟨left, nofun⟩
  | @failed pending start _ failure _ _ same _ made =>
    obtain ⟨left, spoken⟩ := Move.makeAll_served (pending.served_moves scene.world)
      (same.symm ▸ adequate : start.scene.Adequate)
    rw [made] at left spoken
    refine ⟨left, fun error failed => ?_⟩
    cases failed
    exact absurd rfl (spoken error)

/-- Telling a failure sends one text, if there are words for it. -/
theorem tellFailure_sends {progress : Progress} (adequate : progress.scene.Adequate) {failure : Failure}
    (spoken : ∀ error, failure ≠ .message error)
    (arrived : ∀ name, failure ≠ .teleportFailed name) :
    ∃ text, (tellFailure progress failure).calls = progress.calls ++ [.send text] := by
  obtain ⟨key, args, words, served⟩ := Failure.userMessage_served spoken arrived
  obtain ⟨text, rendered⟩ := adequate.messages.render_ok served
  refine ⟨text, ?_⟩
  simp only [tellFailure, words, rendered]
  rfl

/-- Whoever reports an action that fails is told so once. -/
theorem report_sends_once (adequate : scene.Adequate) {failure : Failure}
    (failed : (scene.report hooks action).result = .error failure)
    (spoken : ∀ error, failure ≠ .message error)
    (arrived : ∀ name, failure ≠ .teleportFailed name) :
    (scene.report hooks action).progress.calls.countP Call.isSend = 1 := by
  have undone : (scene.run hooks action).result = .error failure := by
    rw [← failed, Scene.report]
    split <;> rfl
  have course := scene.run_course hooks action
  have silent : (scene.run hooks action).progress.calls.countP Call.isSend = 0 := by
    rw [List.countP_eq_zero]
    intro call mem sends
    obtain ⟨text, rfl⟩ := Call.isSend_iff.1 sends
    exact course.unsent undone spoken text mem
  obtain ⟨same, -⟩ := course.refused undone spoken
  obtain ⟨text, told⟩ := tellFailure_sends (same.symm ▸ adequate) spoken arrived
  have reported : (scene.report hooks action).progress =
      tellFailure (scene.run hooks action).progress failure := by
    simp only [Scene.report, undone]
  rw [reported, told, List.countP_append, silent]
  rfl

end Scene.Adequate

/-! ## Sessions with words -/

namespace Server

/-- There are words for everything, and will be after a reload. -/
structure Adequate (server : Server) : Prop where
  messages : server.messages.Adequate
  rules : server.world.rules.Adequate

/-- The event puts only adequate messages in force, and lets the host find only such. -/
def Event.Adequate : Event → Prop
  | ask _ _ _ => True
  | load config => (MessageSet.ofConfig config).Adequate
  | regulate _ rules => rules.Adequate
  | replace _ world => world.rules.Adequate

theorem Hosts.adequate {server : Server} {event : Event} {exchange : Exchange}
    (h : server.Hosts event exchange) (adequate : server.Adequate) : exchange.scene.Adequate :=
  ⟨h.messages ▸ adequate.messages, h.world ▸ adequate.rules⟩

theorem Adequate.next {server : Server} (h : server.Adequate) {event : Event}
    (fits : event.Adequate) : (server.next event).Adequate := by
  cases event with
  | load config => exact ⟨fits, h.rules⟩
  | regulate grant rules => exact ⟨h.messages, fits⟩
  | replace actors world => exact ⟨h.messages, fits⟩
  | ask hooks index request =>
    cases met : server.exchange? (.ask hooks index request) with
    | none =>
      rw [Server.next, step_of_silent met]
      exact h
    | some exchange =>
      have hosts := hosts_of_exchange? met
      obtain ⟨action, -, answer⟩ := Scene.answer_cases hosts.answered
      have left := (@Scene.Adequate.run_served _ exchange.hooks action (hosts.adequate h)).1
      refine ⟨?_, ?_⟩
      · rw [hosts.messages_next, answer.messages_eq]
        exact left.messages
      · rw [hosts.world_next, answer.world_eq]
        exact left.rules

theorem Adequate.after {server : Server} (h : server.Adequate) {events : List Event}
    (fits : ∀ event ∈ events, event.Adequate) : (server.after events).Adequate := by
  induction events generalizing server with
  | nil => exact h
  | cons event rest ih =>
    exact ih (h.next (fits event List.mem_cons_self))
      fun later mem => fits later (List.mem_cons_of_mem _ mem)

/-- **There are words for everything.** The default messages are adequate, and so is any document
laid over them whose messages ask for no more. From adequate messages, and as long as only
adequate ones are loaded, no request in a session fails over a message, unless it runs a command
line with two tokens or more. Whoever reports an action that fails is sent one text, unless a
message cannot be rendered or the host does not take the actor to a warp. -/
theorem wording_suffices :
    (MessageSet.ofConfig Defaults.config).Adequate ∧
    (∀ user : Config, MessageSet.KeepsToDefaults user →
      (MessageSet.ofConfig (user.layeredOver Defaults.config)).Adequate) ∧
    ∀ (server : Server) (events : List Event), server.Adequate →
      (∀ event ∈ events, event.Adequate) → ∀ exchange ∈ server.exchanges events,
        (∀ error, exchange.turn.result = .error (.message error) →
          ∃ name line, exchange.scene.actionFor exchange.request = some (.runCommand name line) ∧
            2 ≤ (Template.compile line).tokenCount ∧
            error = .argumentCount (Template.compile line).tokenCount 1) ∧
        ∀ action failure, exchange.request = .report action →
          exchange.turn.result = .error failure → (∀ error, failure ≠ .message error) →
          (∀ name, failure ≠ .teleportFailed name) →
            exchange.turn.progress.calls.countP Call.isSend = 1 := by
  refine ⟨MessageSet.adequate_defaults, fun user keeps => MessageSet.adequate_layeredOver keeps,
    fun server events adequate fits exchange mem => ?_⟩
  obtain ⟨first, event, rest, rfl, met⟩ := exists_of_mem_exchanges mem
  have hosts := hosts_of_exchange? met
  have worded := hosts.adequate
    (adequate.after fun event before => fits event (List.mem_append_left _ before))
  constructor
  · intro error failed
    obtain ⟨action, stands, answer⟩ := Scene.answer_cases hosts.answered
    rw [answer.result_eq] at failed
    obtain ⟨name, line, rfl, unrendered⟩ := worded.run_served.2 error failed
    exact ⟨name, line, stands, unrendered⟩
  · intro action failure reported failed spoken arrived
    have answered := hosts.answered
    rw [reported] at answered
    have turned : exchange.scene.report exchange.hooks action = exchange.turn :=
      Option.some.inj answered
    rw [← turned] at failed ⊢
    exact worded.report_sends_once failed spoken arrived

/-- A player who may do everything, where the default messages are all that can be loaded. -/
def lobby : Server where
  actors := [{ name := "Ada", holds := fun _ => true }]
  world := { rules := { configuration := .ok Defaults.config } }
  messages := .ofConfig Defaults.config

/-- The player asks to be taken to a warp that does not exist, and runs a command line that wants
two names. -/
def errands : List Event :=
  [.ask [] 0 (.report (.warp ⟨"spawn"⟩)),
    .ask [] 0 (.run (.runCommand "duel" "duel \x7b\x7d \x7b\x7d"))]

theorem lobby_errands : lobby.Adequate ∧ (∀ event ∈ errands, event.Adequate) ∧
    (∃ exchange ∈ lobby.exchanges errands,
      exchange.turn.result = .error (.warpNotFound ⟨"spawn"⟩) ∧
      exchange.turn.progress.calls.countP Call.isSend = 1) ∧
    ∃ exchange ∈ lobby.exchanges errands,
      exchange.turn.result = .error (.message (.argumentCount 2 1)) := by
  have adequate : lobby.Adequate := by
    refine ⟨wording_suffices.1, fun config read => ?_⟩
    cases read
    exact wording_suffices.1
  have fits : ∀ event ∈ errands, event.Adequate := by
    simp [errands, Event.Adequate]
  have session := wording_suffices.2.2 lobby errands adequate fits
  refine ⟨adequate, fits, ⟨_, List.mem_cons_self, rfl, ?_⟩, _,
    List.mem_cons_of_mem _ List.mem_cons_self, rfl⟩
  exact (session _ List.mem_cons_self).2 _ _ rfl rfl nofun nofun

end Server
end InteractiveMobs
