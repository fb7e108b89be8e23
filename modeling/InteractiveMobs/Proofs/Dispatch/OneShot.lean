import InteractiveMobs.Proofs.Dispatch.Modes

/-!
# Modes are used once

The mode of an actor is a small machine. `Scene.ModeStep` lists its steps: an action that is asked
for directly enters a mode or leaves the mode as it is, the use of a mob by an idle actor leaves
the actor idle, and the use of a mob in create or remove mode is the edit of that mob, which uses
the mode up when it completes and keeps it otherwise. Every request makes one of these steps for
its own actor and none for the others (`Server.modeStep_next`). Behind a completed edit the actor
is idle, so another edit needs the mode to be entered again (`Server.one_shot`).
-/

namespace InteractiveMobs
set_option autoImplicit false

/-- The edit that the use of a mob is in the mode. -/
def Mode.edit? (mob : MobId) : Mode → Option Action
  | creating binding => some (.create mob binding)
  | removing => some (.remove mob)
  | idle => none

/-- The request asks for the action itself, and not for whatever a mob stands for. -/
def Request.IsFor (request : Request) (action : Action) : Prop :=
  request = .run action ∨ request = .report action

namespace Scene

/-- The steps of the machine that an actor's mode is: the request that is answered, and the mode
behind it. -/
inductive ModeStep (scene : Scene) (hooks : List Hook) : Request → Mode → Prop where
  | enter {request : Request} {action : Action} {mode : Mode} (asked : request.IsFor action)
    (enters : action.Enters scene hooks mode) : ModeStep scene hooks request mode
  | stay {request : Request} {action : Action} (asked : request.IsFor action)
    (other : ∀ mode, ¬ action.Enters scene hooks mode) :
    ModeStep scene hooks request scene.actor.mode
  | idle {mob : MobId} (before : scene.actor.mode = .idle) :
    ModeStep scene hooks (.interact mob) .idle
  | spend {mob : MobId} {edit : Action} (stands : scene.actor.mode.edit? mob = some edit)
    (completed : (scene.run hooks edit).result = .ok .completed)
    (answered : scene.answer hooks (.interact mob) =
      some ⟨.ok .completed, (scene.run hooks edit).progress.setMode .idle⟩) :
    ModeStep scene hooks (.interact mob) .idle
  | keep {mob : MobId} {edit : Action} (stands : scene.actor.mode.edit? mob = some edit)
    (undone : (scene.run hooks edit).result ≠ .ok .completed)
    (answered : scene.answer hooks (.interact mob) = some (scene.run hooks edit)) :
    ModeStep scene hooks (.interact mob) scene.actor.mode

theorem modeStep_run {scene : Scene} {request : Request} {action : Action}
    (asked : request.IsFor action) (hooks : List Hook) :
    scene.ModeStep hooks request (scene.run hooks action).progress.scene.actor.mode := by
  rcases scene.mode_run hooks action with enters | ⟨other, same⟩
  · exact .enter asked enters
  · exact same ▸ .stay asked other

/-- No use of a mob is about a mode. -/
theorem entered?_of_actionOn {scene : Scene} {mob : MobId} {action : Action}
    (stands : scene.actionOn mob = some action) : action.entered? = none := by
  unfold actionOn at stands
  split at stands
  · cases stands
    rfl
  · cases stands
    rfl
  · obtain ⟨binding, -, rfl⟩ := Option.map_eq_some_iff.1 stands
    cases binding <;> rfl

/-- What the use of a mob stands for leaves the mode alone while it is run. -/
theorem mode_run_of_actionOn {scene : Scene} {mob : MobId} {action : Action}
    (stands : scene.actionOn mob = some action) (hooks : List Hook) :
    (scene.run hooks action).progress.scene.actor.mode = scene.actor.mode := by
  rcases scene.mode_run hooks action with enters | ⟨-, same⟩
  · cases (entered?_of_actionOn stands).symm.trans enters.isFor
  · exact same

/-- The use of a mob in create or remove mode is the edit of it, and the answer to the edit is
that of the action, with the mode used up if it completed. -/
theorem modeStep_edit {scene : Scene} {mob : MobId} {edit : Action}
    (stands : scene.actor.mode.edit? mob = some edit) (hooks : List Hook) :
    ∃ turn, scene.answer hooks (.interact mob) = some turn ∧
      scene.ModeStep hooks (.interact mob) turn.progress.scene.actor.mode := by
  have found : scene.actionOn mob = some edit ∧ edit.isEdit = true := by
    unfold actionOn
    cases mode : scene.actor.mode with
    | idle =>
      rw [mode] at stands
      cases stands
    | creating binding | removing =>
      rw [mode] at stands
      cases stands
      exact ⟨rfl, rfl⟩
  by_cases completed : (scene.run hooks edit).result = .ok .completed
  · have answered : scene.answer hooks (.interact mob) =
        some ⟨.ok .completed, (scene.run hooks edit).progress.setMode .idle⟩ := by
      simp only [answer, interact, found.1, Option.map_some, completed, found.2, if_true]
    exact ⟨_, answered, .spend stands completed answered⟩
  · have answered : scene.answer hooks (.interact mob) = some (scene.run hooks edit) := by
      simp only [answer, interact, found.1, Option.map_some]
    refine ⟨_, answered, ?_⟩
    rw [mode_run_of_actionOn found.1]
    exact .keep stands completed answered

/-- The use of a mob by an idle actor leaves the actor idle. -/
theorem mode_interact_of_idle {scene : Scene} {hooks : List Hook} {mob : MobId} {turn : Turn}
    (idle : scene.actor.mode = .idle) (h : scene.answer hooks (.interact mob) = some turn) :
    turn.progress.scene.actor.mode = .idle := by
  obtain ⟨action, stands, answer⟩ := answer_cases h
  have still := (mode_run_of_actionOn stands hooks).trans idle
  cases answer with
  | plain => exact still
  | told => rwa [scene_tellFailure]
  | edited => rfl

/-- An answered request makes a step of its actor's mode. -/
theorem modeStep_answer {scene : Scene} {hooks : List Hook} {request : Request} {turn : Turn}
    (h : scene.answer hooks request = some turn) :
    scene.ModeStep hooks request turn.progress.scene.actor.mode := by
  cases request with
  | run action =>
    cases h
    exact modeStep_run (.inl rfl) hooks
  | report action =>
    cases h
    rw [scene_report]
    exact modeStep_run (.inr rfl) hooks
  | interact mob =>
    cases stands : scene.actor.mode.edit? mob with
    | none =>
      have idle : scene.actor.mode = .idle := by
        cases mode : scene.actor.mode with
        | idle => rfl
        | creating binding | removing =>
          rw [mode] at stands
          cases stands
      rw [mode_interact_of_idle idle h]
      exact .idle idle
    | some edit =>
      obtain ⟨turn', answered, step⟩ := modeStep_edit stands hooks
      cases h.symm.trans answered
      exact step

/-- Only the use of a mob by an idle actor goes unanswered. -/
theorem modeStep_silent {scene : Scene} {hooks : List Hook} {request : Request}
    (h : scene.answer hooks request = none) : scene.ModeStep hooks request scene.actor.mode := by
  cases request with
  | run action => cases h
  | report action => cases h
  | interact mob =>
    cases mode : scene.actor.mode with
    | idle => exact .idle mode
    | creating binding | removing =>
      have unstood : scene.actionOn mob = none := Option.map_eq_none_iff.1 h
      simp [actionOn, mode] at unstood

end Scene

namespace Server

/-- What a request makes of the modes of all actors. -/
structure ModeRules (server : Server) (hooks : List Hook) (index : Nat) (request : Request) :
    Prop where
  others : ∀ other, other ≠ index →
    (server.next (.ask hooks index request)).mode? other = server.mode? other
  own : ∀ scene, server.scene? index = some scene →
    ∃ after, (server.next (.ask hooks index request)).mode? index = some after ∧
      scene.ModeStep hooks request after

/-- A request makes a step of its own actor's mode, and none of any other. -/
theorem modeStep_next (server : Server) (hooks : List Hook) (index : Nat) (request : Request) :
    server.ModeRules hooks index request := by
  cases asks : server.scene? index with
  | none => exact ⟨fun other _ => by simp [next, step, asks], fun scene met => by simp_all⟩
  | some scene =>
    obtain ⟨actor, seated, rfl⟩ := Option.map_eq_some_iff.1 asks
    cases answered : Scene.answer ⟨actor, server.world, server.messages⟩ hooks request with
    | none =>
      have same : server.next (.ask hooks index request) = server := by
        simp [next, step, asks, answered]
      refine ⟨fun other _ => by rw [same], fun scene met => ?_⟩
      cases asks.symm.trans met
      exact ⟨actor.mode, by simp [same, mode?, seated], Scene.modeStep_silent answered⟩
    | some turn =>
      have left : server.next (.ask hooks index request) =
          server.leave index turn.progress.scene := by simp [next, step, asks, answered]
      have there : index < server.actors.length := (List.getElem?_eq_some_iff.1 seated).1
      refine ⟨fun other away => ?_, fun scene met => ?_⟩
      · rw [left, mode?, leave, List.getElem?_set_ne (Ne.symm away), mode?]
      · cases asks.symm.trans met
        refine ⟨turn.progress.scene.actor.mode, ?_, Scene.modeStep_answer answered⟩
        rw [left, mode?, leave, List.getElem?_set_self there, Option.map_some]

/-- The actor of the index uses a mob in create or remove mode, and the edit completes. -/
def CompletesEdit (server : Server) (hooks : List Hook) (index : Nat) (mob : MobId) : Prop :=
  ∃ scene turn, server.scene? index = some scene ∧ scene.actor.mode ≠ .idle ∧
    scene.answer hooks (.interact mob) = some turn ∧ turn.result = .ok .completed

variable {server : Server} {hooks : List Hook} {index : Nat} {mob : MobId}

/-- A completed edit leaves its actor idle. -/
theorem CompletesEdit.idle_next (h : server.CompletesEdit hooks index mob) :
    (server.next (.ask hooks index (.interact mob))).mode? index = some .idle := by
  obtain ⟨scene, turn, asks, busy, answered, completed⟩ := h
  obtain ⟨after, behind, step⟩ := (server.modeStep_next hooks index (.interact mob)).own scene asks
  cases step with
  | enter asked enters => rcases asked with asked | asked <;> cases asked
  | stay asked other => rcases asked with asked | asked <;> cases asked
  | idle before => exact absurd before busy
  | spend => exact behind
  | keep stands undone same =>
    cases answered.symm.trans same
    exact absurd completed undone

theorem CompletesEdit.busy (h : server.CompletesEdit hooks index mob) :
    ∃ mode, mode ≠ .idle ∧ server.mode? index = some mode := by
  obtain ⟨scene, turn, asks, busy, -⟩ := h
  obtain ⟨actor, seated, rfl⟩ := Option.map_eq_some_iff.1 asks
  exact ⟨actor.mode, busy, by rw [mode?, seated, Option.map_some]⟩

/-- A request that enters create or remove mode asks for the start of it. -/
theorem isFor_of_enters {scene : Scene} {request : Request} {action : Action} {mode : Mode}
    (stands : scene.actionFor request = some action) (enters : action.Enters scene hooks mode)
    (busy : mode ≠ .idle) :
    request.IsFor action ∧
      ((∃ binding, action = .startCreate binding) ∨ action = .startRemove) := by
  have isFor := enters.isFor
  constructor
  · cases request with
    | run asked =>
      cases stands
      exact .inl rfl
    | report asked =>
      cases stands
      exact .inr rfl
    | interact mob => cases (Scene.entered?_of_actionOn stands).symm.trans isFor
  · cases action <;> cases isFor
    · exact .inl ⟨_, rfl⟩
    · exact .inr rfl
    · exact absurd rfl busy

/-- **A mode is used once.** Every request of a session makes one step of its own actor's mode, as
`Scene.ModeStep` lists them, and leaves the modes of all other actors alone. If the session leaves
it to the actors to change their modes, then between two completed edits of one actor lies a
request of that actor to start creating or removing which passed every check and every hook. -/
theorem one_shot {events : List Event} (left : server.LeavesModes events) :
    (∀ past hooks index request, past ++ [.ask hooks index request] <+: events →
      (server.after past).ModeRules hooks index request) ∧
    ∀ past hooks index mob between hooks' mob',
      past ++ .ask hooks index (.interact mob) :: between ++
          [.ask hooks' index (.interact mob')] <+: events →
      (server.after past).CompletesEdit hooks index mob →
      (server.after (past ++ .ask hooks index (.interact mob) :: between)).CompletesEdit
        hooks' index mob' →
      ∃ before passed request behind start action,
        between = before ++ .ask passed index request :: behind ∧
        (server.after (past ++ .ask hooks index (.interact mob) :: before)).exchange?
          (.ask passed index request) = some start ∧
        request.IsFor action ∧
        ((∃ binding, action = .startCreate binding) ∨ action = .startRemove) ∧
        action.Passes start.scene passed := by
  refine ⟨fun past hooks index request _ => modeStep_next _ hooks index request, ?_⟩
  rintro past hooks index mob between hooks' mob' ⟨rest, rfl⟩ first second
  have split (past : List Event) (between : List Event) :
      server.after (past ++ .ask hooks index (.interact mob) :: between) =
        ((server.after past).next (.ask hooks index (.interact mob))).after between := by
    rw [after_append]
    rfl
  obtain ⟨mode, busy, now⟩ := second.busy
  have idle : ((server.after past).next (.ask hooks index (.interact mob))).mode? index ≠
      some mode := by
    rw [first.idle_next]
    exact fun same => busy (Option.some.inj same).symm
  have leftBetween :
      ((server.after past).next (.ask hooks index (.interact mob))).LeavesModes between := by
    rintro before event behind rfl
    rw [← split]
    exact left _ event (behind ++ [.ask hooks' index (.interact mob')] ++ rest) (by simp)
  rw [split] at now
  obtain ⟨before, event, behind, rfl, passed, request, start, action, rfl, met, stands, enters⟩ :=
    exists_entry leftBetween busy idle now
  obtain ⟨isFor, starts⟩ := isFor_of_enters stands enters busy
  exact ⟨before, passed, request, behind, start, action, rfl, split past before ▸ met, isFor,
    starts, enters.passes⟩

/-- Two players who may do everything, and the messages for what edits lead to. -/
def pasture : Server where
  actors := [{ name := "Ada", holds := fun _ => true }, { name := "Bob", holds := fun _ => true }]
  world := { rules := { configuration := .error .homeNotFound } }
  messages := .ofConfig (.ofEntries [("action-create-success", "done"),
    ("action-remove-success", "gone")])

/-- Ada begins to create. -/
def herding : List Event := [.ask [] 0 (.run (.startCreate (.command "heal" "heal \x7b\x7d")))]

/-- Both players begin to remove. -/
def parting : List Event := [.ask [] 1 (.report .startRemove), .ask [] 0 (.run .startRemove)]

theorem pasture_edits :
    pasture.LeavesModes (herding ++ .ask [] 0 (.interact ⟨7⟩) :: parting ++
        [.ask [] 0 (.interact ⟨7⟩)]) ∧
      (pasture.after herding).CompletesEdit [] 0 ⟨7⟩ ∧
      (pasture.after (herding ++ .ask [] 0 (.interact ⟨7⟩) :: parting)).CompletesEdit [] 0 ⟨7⟩ ∧
      ∃ hooks scene, .ask hooks 0 (.run .startRemove) ∈ parting ∧
        Action.startRemove.Passes scene hooks := by
  have left : pasture.LeavesModes (herding ++ .ask [] 0 (.interact ⟨7⟩) :: parting ++
      [.ask [] 0 (.interact ⟨7⟩)]) :=
    leavesModes_of_orderly (by simp [herding, parting, Event.IsOrderly])
  have first : (pasture.after herding).CompletesEdit [] 0 ⟨7⟩ := ⟨_, _, rfl, nofun, rfl, rfl⟩
  have second : (pasture.after (herding ++ .ask [] 0 (.interact ⟨7⟩) :: parting)).CompletesEdit
      [] 0 ⟨7⟩ := ⟨_, _, rfl, nofun, rfl, rfl⟩
  refine ⟨left, first, second, ?_⟩
  obtain ⟨before, hooks, request, behind, start, action, split, -, asked, -, passes⟩ :=
    (one_shot left).2 herding [] 0 ⟨7⟩ parting [] ⟨7⟩ (List.prefix_refl _) first second
  -- The one request of Ada's own is the second one.
  rcases before with _ | ⟨_, _ | ⟨_, _ | _⟩⟩ <;> cases split
  obtain rfl : action = .startRemove := by
    rcases asked with asked | asked <;> cases asked
    rfl
  exact ⟨_, start.scene, List.mem_cons_of_mem _ List.mem_cons_self, passes⟩

end Server
end InteractiveMobs
