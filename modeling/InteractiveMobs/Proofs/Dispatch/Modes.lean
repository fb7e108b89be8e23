import InteractiveMobs.Proofs.Dispatch.Authorization
import InteractiveMobs.Proofs.Dispatch.Course
import Mathlib.Data.List.Induction

/-!
# How modes are entered

Only three actions are about the actor's mode, and `Action.entered?` says which mode each of them
is for. An action of these that passes its checks and the hooks leaves its actor in that mode, and
every other run of an action leaves the mode as it was (`Scene.mode_run`). So an actor who is in
create or remove mode and was not at the start of a session entered the mode in that session
(`Server.exists_entry`), in a scene that was ready for it.
-/

namespace InteractiveMobs
set_option autoImplicit false

namespace Action

/-- The mode that an action is there to enter. -/
def entered? : Action → Option Mode
  | startCreate binding => some (.creating binding)
  | startRemove => some .removing
  | cancel => some .idle
  | _ => none

/-- The action passes every check, and every hook lets it pass. -/
structure Passes (action : Action) (scene : Scene) (hooks : List Hook) : Prop where
  authorized : action.Authorized scene
  allowed : ∀ pending, action.prepare scene.actor scene.world = .ok pending →
    ∀ hook ∈ hooks, hook pending = true

/-- The action is there to enter the mode, and it passes. -/
structure Enters (action : Action) (scene : Scene) (hooks : List Hook) (mode : Mode) : Prop where
  isFor : action.entered? = some mode
  passes : action.Passes scene hooks

end Action

theorem Pending.allowed_consult (pending : Pending) (index : Nat) (hooks : List Hook) :
    (pending.consult index hooks).2 = true ↔ ∀ hook ∈ hooks, hook pending = true := by
  induction hooks generalizing index with
  | nil => simp [consult]
  | cons hook rest ih =>
    rw [List.forall_mem_cons, ← ih (index + 1), consult]
    split
    next allowed => simp [allowed]
    next vetoed => simp [vetoed]

theorem Action.passes_iff {action : Action} {scene : Scene} {hooks : List Hook} :
    action.Passes scene hooks ↔ ∃ pending,
      action.prepare scene.actor scene.world = .ok pending ∧
        (pending.consult 0 hooks).2 = true := by
  constructor
  · rintro ⟨authorized, allowed⟩
    cases checked : action.prepare scene.actor scene.world with
    | ok pending => exact ⟨pending, rfl, (pending.allowed_consult 0 hooks).2 (allowed _ checked)⟩
    | error failure => exact absurd (obstacle_of_prepare checked) (authorized_iff.1 authorized _)
  · rintro ⟨pending, checked, allowed⟩
    refine ⟨authorized_of_prepare checked, fun other same => ?_⟩
    rw [checked, Except.ok.injEq] at same
    exact same ▸ (pending.allowed_consult 0 hooks).1 allowed

namespace Move

theorem mode_effect (move : Move) (scene : Scene) :
    (∃ mode, move = .enter mode) ∨ (move.effect scene).actor.mode = scene.actor.mode := by
  cases move with
  | enter mode => exact .inl ⟨mode, rfl⟩
  | label mob name =>
    refine .inr ?_
    unfold effect
    dsimp only
    split <;> rfl
  | reload =>
    refine .inr ?_
    unfold effect
    dsimp only
    split <;> rfl
  | _ => exact .inr rfl

theorem mode_makeAll {moves : List Move} (still : ∀ mode, .enter mode ∉ moves) (p : Progress) :
    (makeAll moves p).1.scene.actor.mode = p.scene.actor.mode := by
  refine makeAll_keeps (·.scene.actor.mode = p.scene.actor.mode) (fun move mem q same => ?_) rfl
  rw [scene_make, ← same]
  rcases mode_effect move q.scene with ⟨mode, rfl⟩ | kept
  · exact absurd mem (still mode)
  · exact kept

end Move

namespace Pending

/-- The moves of an action leave the scene that its deeds leave. -/
theorem scene_moves (pending : Pending) (world : World) (p : Progress) :
    (Move.makeAll (pending.moves world) p).1.scene = (Move.makeAll pending.deeds p).1.scene := by
  obtain ⟨words, moves, quiet⟩ := pending.moves_eq world
  rw [moves, Move.makeAll_append]
  split
  next q done => rw [Move.scene_makeAll_words quiet, done]
  next q failure failed => rw [failed]

/-- An action enters the mode it is for, and does nothing else. -/
theorem deeds_of_entered {pending : Pending} {mode : Mode}
    (h : pending.action.entered? = some mode) : pending.deeds = [.enter mode] := by
  obtain ⟨actor, action, command⟩ := pending
  cases action <;> cases h <;> rfl

theorem enter_not_mem_deeds {pending : Pending} (h : pending.action.entered? = none) (mode : Mode) :
    .enter mode ∉ pending.deeds := by
  obtain ⟨actor, action, command⟩ := pending
  unfold deeds
  rcases action with _ | _ | _ | _ | _ | _ | _ | _ | ⟨mob, _ | _⟩ | _ | _
  case startCreate | startRemove | cancel => cases h
  all_goals simp

/-- The mode behind the moves of an action is the one it is for, or the one before. -/
theorem mode_moves (pending : Pending) (world : World) (p : Progress) :
    (Move.makeAll (pending.moves world) p).1.scene.actor.mode =
      pending.action.entered?.getD p.scene.actor.mode := by
  rw [scene_moves]
  cases isFor : pending.action.entered? with
  | none => exact Move.mode_makeAll (enter_not_mem_deeds isFor) p
  | some mode =>
    rw [deeds_of_entered isFor, Move.makeAll_singleton, Move.scene_make]
    rfl

end Pending

namespace Scene

/-- An action that is there to enter a mode and passes has entered it, even if it fails at a
message behind that. Every other action leaves the mode as it is. -/
theorem mode_run (scene : Scene) (hooks : List Hook) (action : Action) :
    action.Enters scene hooks (scene.run hooks action).progress.scene.actor.mode ∨
      (∀ mode, ¬ action.Enters scene hooks mode) ∧
        (scene.run hooks action).progress.scene.actor.mode = scene.actor.mode := by
  have moved {pending : Pending} {start : Progress} (same : start.scene = scene)
      (checked : action.prepare scene.actor scene.world = .ok pending)
      (allowed : (pending.consult 0 hooks).2 = true) :
      action.Enters scene hooks
          (Move.makeAll (pending.moves scene.world) start).1.scene.actor.mode ∨
        (∀ mode, ¬ action.Enters scene hooks mode) ∧
          (Move.makeAll (pending.moves scene.world) start).1.scene.actor.mode =
            scene.actor.mode := by
    have passes := Action.passes_iff.2 ⟨pending, checked, allowed⟩
    obtain ⟨-, -, command, -, rfl⟩ := Action.checks_of_prepare checked
    rw [Pending.mode_moves, same]
    cases isFor : action.entered? with
    | none => exact .inr ⟨fun mode enters => by simpa [isFor] using enters.isFor, rfl⟩
    | some mode => exact .inl ⟨isFor, passes⟩
  have stopped (h : ¬ action.Passes scene hooks) (mode : Mode) :
      ¬ action.Enters scene hooks mode := fun enters => h enters.passes
  have course := scene.run_course hooks action
  generalize scene.run hooks action = turn at course ⊢
  cases course with
  | unprepared checked same =>
    refine .inr ⟨stopped fun passes => ?_, congrArg (·.actor.mode) same⟩
    obtain ⟨pending, passed, -⟩ := Action.passes_iff.1 passes
    rw [checked] at passed
    cases passed
  | vetoed checked veto same =>
    refine .inr ⟨stopped fun passes => ?_, congrArg (·.actor.mode) same⟩
    obtain ⟨pending, passed, allowed⟩ := Action.passes_iff.1 passes
    rw [checked] at passed
    cases passed
    rw [veto] at allowed
    cases allowed
  | completed checked allowed same asked made =>
    have mode := moved same checked allowed
    rw [made] at mode
    exact mode
  | failed checked allowed same asked made =>
    have mode := moved same checked allowed
    rw [made] at mode
    exact mode

/-- An actor is in create or remove mode behind an answer only if they were so before, or the
action entered the mode. -/
theorem Answer.enters {scene : Scene} {hooks : List Hook} {action : Action} {turn : Turn}
    {mode : Mode} (h : scene.Answer hooks action turn) (busy : mode ≠ .idle)
    (now : turn.progress.scene.actor.mode = mode) :
    scene.actor.mode = mode ∨ action.Enters scene hooks mode := by
  have after : (scene.run hooks action).progress.scene.actor.mode = mode := by
    cases h with
    | plain => exact now
    | told => rwa [scene_tellFailure] at now
    | edited => exact absurd now.symm busy
  rcases scene.mode_run hooks action with enters | ⟨-, same⟩
  · exact .inr (after ▸ enters)
  · exact .inl (same.symm.trans after)

end Scene

namespace Server

/-- The mode of the actor of the given index. -/
def mode? (server : Server) (index : Nat) : Option Mode := server.actors[index]?.map (·.mode)

/-- The actor of a request that is answered is the one of its index, and only that actor is
another one behind it. -/
theorem actor_of_exchange? {server : Server} {hooks : List Hook} {index : Nat} {request : Request}
    {exchange : Exchange} (h : server.exchange? (.ask hooks index request) = some exchange) :
    server.actors[index]? = some exchange.scene.actor ∧ exchange.hooks = hooks ∧
      exchange.request = request ∧ (server.next (.ask hooks index request)).actors =
        server.actors.set index exchange.turn.progress.scene.actor := by
  unfold exchange? at h
  dsimp only at h
  split at h
  next scene turn asks answered =>
    cases h
    obtain ⟨actor, found, rfl⟩ := Option.map_eq_some_iff.1 asks
    simp only [step, asks] at answered
    split at answered
    next => cases answered
    next turn' same =>
      cases answered
      exact ⟨found, rfl, rfl, by simp [next, step, asks, same, leave]⟩
  next => cases h

/-- The event leaves it to the actors to change their modes. -/
def Event.LeavesModes (server : Server) : Event → Prop
  | ask _ _ _ | load _ | regulate _ _ => True
  | replace actors _ => actors.map (·.mode) = server.actors.map (·.mode)

/-- In the session only requests change the modes of actors. -/
def LeavesModes (server : Server) (events : List Event) : Prop :=
  ∀ past event rest, events = past ++ event :: rest → event.LeavesModes (server.after past)

theorem leavesModes_of_orderly {server : Server} {events : List Event}
    (h : ∀ event ∈ events, event.IsOrderly) : server.LeavesModes events := by
  rintro past event rest rfl
  have orderly := h event (by simp)
  cases event with
  | replace actors world => exact orderly.elim
  | _ => trivial

/-- The actor of the index asks for something at the event, and enters the mode by it. -/
def Entry (server : Server) (index : Nat) (mode : Mode) (event : Event) : Prop :=
  ∃ hooks request exchange action, event = .ask hooks index request ∧
    server.exchange? event = some exchange ∧
    exchange.scene.actionFor request = some action ∧ action.Enters exchange.scene hooks mode

/-- An actor who is in create or remove mode behind an event was so before, or entered the mode at
it. -/
theorem entry_next {server : Server} {event : Event} (left : event.LeavesModes server)
    {index : Nat} {mode : Mode} (busy : mode ≠ .idle)
    (now : (server.next event).mode? index = some mode) :
    server.mode? index = some mode ∨ server.Entry index mode event := by
  cases event with
  | load config => exact .inl now
  | replace actors world =>
    have same : actors.map (·.mode) = server.actors.map (·.mode) := left
    refine .inl (Eq.trans ?_ now)
    rw [mode?, mode?, ← List.getElem?_map, ← List.getElem?_map, ← same]
    rfl
  | regulate grant rules =>
    refine .inl (Eq.trans ?_ now)
    simp only [mode?, next, regulate, List.getElem?_map, Option.map_map]
    rfl
  | ask hooks actor request =>
    cases met : server.exchange? (.ask hooks actor request) with
    | none =>
      rw [next, step_of_silent met] at now
      exact .inl now
    | some exchange =>
      obtain ⟨seated, rfl, rfl, actors⟩ := actor_of_exchange? met
      rw [mode?, actors] at now
      by_cases own : actor = index
      · subst own
        obtain ⟨action, stands, answer⟩ := Scene.answer_cases (hosts_of_exchange? met).answered
        have there : actor < server.actors.length := (List.getElem?_eq_some_iff.1 seated).1
        rw [List.getElem?_set_self there, Option.map_some, Option.some.injEq] at now
        rcases answer.enters busy now with before | enters
        · exact .inl (by simp [mode?, seated, before])
        · exact .inr ⟨_, _, exchange, action, rfl, met, stands, enters⟩
      · rw [List.getElem?_set_ne own] at now
        exact .inl now

/-- Whoever is in create or remove mode, and was not at the start of the session, entered the mode
in it. -/
theorem exists_entry {server : Server} {events : List Event} (left : server.LeavesModes events)
    {index : Nat} {mode : Mode} (busy : mode ≠ .idle) (before : server.mode? index ≠ some mode)
    (now : (server.after events).mode? index = some mode) :
    ∃ past event between, events = past ++ event :: between ∧
      (server.after past).Entry index mode event := by
  -- The latest event is the one in question, or the mode was in force before it.
  induction events using List.reverseRecOn with
  | nil => exact absurd now before
  | append_singleton events event ih =>
    rw [after_append] at now
    rcases entry_next (left events event [] rfl) busy now with earlier | entered
    · obtain ⟨past, entry, between, rfl, found⟩ :=
        ih (fun past other rest split => left past other (rest ++ [event]) (by simp [split]))
          earlier
      exact ⟨past, entry, between ++ [event], by simp, found⟩
    · exact ⟨events, event, [], rfl, entered⟩

/-- Whoever is in create mode entered it in the session, if nobody was in it at the start. -/
theorem exists_start {server : Server} (idle : ∀ actor ∈ server.actors, actor.mode = .idle)
    {events : List Event} (orderly : ∀ event ∈ events, event.IsOrderly) {index : Nat}
    {binding : Binding} (creating : (server.after events).mode? index = some (.creating binding)) :
    ∃ before hooks request between start,
      events = before ++ .ask hooks index request :: between ∧
      (server.after before).exchange? (.ask hooks index request) = some start ∧
      start.scene.actionFor request = some (.startCreate binding) ∧
      (Action.startCreate binding).Authorized start.scene := by
  have unset : server.mode? index ≠ some (.creating binding) := by
    intro set
    obtain ⟨actor, found, mode⟩ := Option.map_eq_some_iff.1 set
    rw [idle actor (List.mem_of_getElem? found)] at mode
    cases mode
  obtain ⟨before, event, between, rfl, hooks, request, start, action, rfl, met, stands, enters⟩ :=
    exists_entry (leavesModes_of_orderly orderly) Mode.noConfusion unset creating
  obtain rfl : action = .startCreate binding := by
    have isFor := enters.isFor
    cases action <;> cases isFor
    rfl
  exact ⟨before, hooks, request, between, start, rfl, met, stands, enters.passes.authorized⟩

end Server
end InteractiveMobs
