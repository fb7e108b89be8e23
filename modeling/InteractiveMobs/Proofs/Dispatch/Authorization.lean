import InteractiveMobs.Proofs.Dispatch.Session

/-!
# Authorization

Nothing is done for an actor who may not have it done. `Action.Authorized` is what an action
needs of its scene, and an `Action.Obstacle` is one thing that is missing, with the failure that
names it. `Server.authorized_of_acts` says of every exchange in every session that hooks are
asked, the host is called and the scene changes only for an authorized action, and that of all
obstacles the actor meets the first in the order of the checks.
-/

namespace InteractiveMobs
set_option autoImplicit false

namespace Action

/-- Warps, mobs and the actor's mode are as the action needs them. -/
def Ready (action : Action) (scene : Scene) : Prop :=
  match action with
  | .warp name | .deleteWarp name | .startCreate (.warp name) => scene.world.hasWarp name = true
  | .setWarp name => scene.world.hasWarp name = false
  | .create mob _ => scene.world.binding? mob = none
  | .remove mob => scene.world.binding? mob ≠ none
  | .cancel => scene.actor.mode ≠ .idle
  | .runCommand _ _ | .startCreate (.command _ _) | .startRemove | .listWarps | .reload => True

/-- The actor may have the action done, here and now. -/
structure Authorized (action : Action) (scene : Scene) : Prop where
  player : action.requiresPlayer = true → scene.actor.isPlayer = true
  capable : ∀ capability, action.capability = some capability →
    scene.actor.holds capability = true
  ready : action.Ready scene
  rendered : ∀ name line, action = .runCommand name line →
    ∃ text, (Template.compile line).render [scene.actor.name] = .ok text

/-- Something that an action lacks, and the failure that names it. -/
inductive Obstacle (scene : Scene) : Action → Failure → Prop where
  | console {action : Action} (needed : action.requiresPlayer = true)
    (absent : scene.actor.isPlayer = false) : Obstacle scene action .playerOnly
  | incapable {action : Action} {capability : Capability}
    (needed : action.capability = some capability)
    (absent : scene.actor.holds capability = false) :
    Obstacle scene action (.permission capability)
  | nowhere {name : WarpName} (absent : scene.world.hasWarp name = false) :
    Obstacle scene (.warp name) (.warpNotFound name)
  | nothingToDelete {name : WarpName} (absent : scene.world.hasWarp name = false) :
    Obstacle scene (.deleteWarp name) (.warpNotFound name)
  | nowhereToLead {name : WarpName} (absent : scene.world.hasWarp name = false) :
    Obstacle scene (.startCreate (.warp name)) (.warpNotFound name)
  | taken {name : WarpName} (there : scene.world.hasWarp name = true) :
    Obstacle scene (.setWarp name) (.warpExists name)
  | bound {mob : MobId} {binding : Binding} (there : scene.world.binding? mob ≠ none) :
    Obstacle scene (.create mob binding) .alreadyInteractive
  | unbound {mob : MobId} (absent : scene.world.binding? mob = none) :
    Obstacle scene (.remove mob) .notInteractive
  | idle (mode : scene.actor.mode = .idle) : Obstacle scene .cancel .nothingToCancel
  | unrendered {name line : String} {error : MessageError}
    (failed : (Template.compile line).render [scene.actor.name] = .error error) :
    Obstacle scene (.runCommand name line) (.message error)

end Action

/-- The place of the check that fails, in the order of the checks: whether there is a player,
the capability, the state of things, and the rendering of a command line. -/
def Failure.rank : Failure → Nat
  | playerOnly => 0
  | permission _ => 1
  | warpNotFound _ | warpExists _ | alreadyInteractive | notInteractive | nothingToCancel => 2
  | commandFailed _ | teleportFailed _ | reloadFailed _ | message _ => 3

namespace Action

/-- The obstacle that no other one comes before. -/
structure FirstObstacle (action : Action) (scene : Scene) (failure : Failure) : Prop where
  stands : action.Obstacle scene failure
  first : ∀ other, action.Obstacle scene other → failure.rank ≤ other.rank

variable {action : Action} {scene : Scene} {failure : Failure}

/-- An action is authorized when nothing stands in its way. -/
theorem authorized_iff : action.Authorized scene ↔ ∀ failure, ¬ action.Obstacle scene failure := by
  constructor
  · rintro ⟨player, capable, ready, rendered⟩ failure obstacle
    cases obstacle with
    | console needed absent => simp [player needed] at absent
    | incapable needed absent => simp [capable _ needed] at absent
    | nowhere absent | nothingToDelete absent | nowhereToLead absent =>
      have there : scene.world.hasWarp _ = true := ready
      simp [there] at absent
    | taken there =>
      have free : scene.world.hasWarp _ = false := ready
      simp [free] at there
    | bound there => exact there ready
    | unbound absent => exact ready absent
    | idle mode => exact ready mode
    | unrendered failed =>
      obtain ⟨text, made⟩ := rendered _ _ rfl
      simp [made] at failed
  · intro clear
    refine ⟨fun needed => ?_, fun capability needed => ?_, ?_, ?_⟩
    · exact eq_true_of_ne_false fun absent => clear _ (.console needed absent)
    · exact eq_true_of_ne_false fun absent => clear _ (.incapable needed absent)
    · unfold Ready
      split
      · exact eq_true_of_ne_false fun absent => clear _ (.nowhere absent)
      · exact eq_true_of_ne_false fun absent => clear _ (.nothingToDelete absent)
      · exact eq_true_of_ne_false fun absent => clear _ (.nowhereToLead absent)
      · exact eq_false_of_ne_true fun there => clear _ (.taken there)
      · exact Decidable.of_not_not fun there => clear _ (.bound there)
      · exact fun absent => clear _ (.unbound absent)
      · exact fun mode => clear _ (.idle mode)
      all_goals trivial
    · rintro name line rfl
      cases made : (Template.compile line).render [scene.actor.name] with
      | ok text => exact ⟨text, rfl⟩
      | error error => exact absurd (.unrendered made) (clear _)

/-! ## The checks in order -/

theorem required_failed {condition : Bool} {given : Failure} :
    (if condition then .ok () else .error given : Except Failure Unit) = .error failure ↔
      condition = false ∧ given = failure := by
  cases condition <;> simp

theorem forbidden_failed {condition : Bool} {given : Failure} :
    (if condition then .error given else .ok () : Except Failure Unit) = .error failure ↔
      condition = true ∧ given = failure := by
  cases condition <;> simp

theorem obstacle_of_checkActor (h : action.checkActor scene.actor = .error failure) :
    action.Obstacle scene failure ∧ failure.rank ≤ 1 := by
  unfold checkActor at h
  split at h
  next console =>
    cases h
    rw [Bool.and_eq_true, Bool.not_eq_true'] at console
    exact ⟨.console console.1 console.2, Nat.zero_le 1⟩
  next =>
    split at h
    next capability needed =>
      split at h
      next => cases h
      next absent =>
        cases h
        exact ⟨.incapable needed (eq_false_of_ne_true absent), Nat.le_refl 1⟩
    next => cases h

theorem obstacle_of_checkState (h : action.checkState scene.actor scene.world = .error failure) :
    action.Obstacle scene failure ∧ failure.rank = 2 := by
  rcases action with _ | name | name | name | _ | ⟨_ | name⟩ | _ | _ | ⟨mob, binding⟩ | mob | _
  case warp =>
    obtain ⟨absent, rfl⟩ := required_failed.1 h
    exact ⟨.nowhere absent, rfl⟩
  case deleteWarp =>
    obtain ⟨absent, rfl⟩ := required_failed.1 h
    exact ⟨.nothingToDelete absent, rfl⟩
  case startCreate.warp =>
    obtain ⟨absent, rfl⟩ := required_failed.1 h
    exact ⟨.nowhereToLead absent, rfl⟩
  case setWarp =>
    obtain ⟨there, rfl⟩ := forbidden_failed.1 h
    exact ⟨.taken there, rfl⟩
  case create =>
    obtain ⟨there, rfl⟩ := forbidden_failed.1 h
    exact ⟨.bound (Option.isSome_iff_ne_none.1 there), rfl⟩
  case remove =>
    obtain ⟨absent, rfl⟩ := required_failed.1 h
    exact ⟨.unbound (by simpa using absent), rfl⟩
  case cancel =>
    simp only [checkState] at h
    split at h
    next idle =>
      cases h
      exact ⟨.idle idle, rfl⟩
    next => cases h
  all_goals cases h

theorem obstacle_of_renderCommand (h : action.renderCommand scene.actor = .error failure) :
    action.Obstacle scene failure ∧ failure.rank = 3 := by
  cases action with
  | runCommand name line =>
    simp only [renderCommand] at h
    split at h
    next => cases h
    next error failed =>
      cases h
      exact ⟨.unrendered failed, rfl⟩
  | _ => cases h

theorem obstacle_of_prepare (h : action.prepare scene.actor scene.world = .error failure) :
    action.Obstacle scene failure := by
  rcases failed_of_prepare h with refused | refused | unrendered
  · exact (obstacle_of_checkActor refused).1
  · exact (obstacle_of_checkState refused).1
  · exact (obstacle_of_renderCommand unrendered).1

/-- The first obstacle is what checking answers with. -/
theorem prepare_of_first (h : action.FirstObstacle scene failure) :
    action.prepare scene.actor scene.world = .error failure := by
  obtain ⟨stands, first⟩ := h
  have granted (later : 2 ≤ failure.rank) : action.checkActor scene.actor = .ok () := by
    cases checked : action.checkActor scene.actor with
    | ok => rfl
    | error other =>
      obtain ⟨before, low⟩ := obstacle_of_checkActor checked
      have := first other before
      omega
  have possible (last : failure.rank = 3) :
      action.checkState scene.actor scene.world = .ok () := by
    cases checked : action.checkState scene.actor scene.world with
    | ok => rfl
    | error other =>
      obtain ⟨before, low⟩ := obstacle_of_checkState checked
      have := first other before
      omega
  rw [prepare_eq]
  cases stands with
  | console needed absent => simp [checkActor, needed, absent]
  | incapable needed absent =>
    have player : (action.requiresPlayer && !scene.actor.isPlayer) = false := by
      refine eq_false_of_ne_true fun console => ?_
      rw [Bool.and_eq_true, Bool.not_eq_true'] at console
      exact absurd (first _ (.console console.1 console.2)) (by simp [Failure.rank])
    simp [checkActor, player, needed, absent]
  | nowhere absent | nothingToDelete absent | nowhereToLead absent =>
    rw [granted (Nat.le_refl 2)]
    simp [checkState, absent]
  | taken there =>
    rw [granted (Nat.le_refl 2)]
    simp [checkState, there]
  | bound there =>
    rw [granted (Nat.le_refl 2)]
    simp [checkState, Option.isSome_iff_ne_none.2 there]
  | unbound absent =>
    rw [granted (Nat.le_refl 2)]
    simp [checkState, absent]
  | idle mode =>
    rw [granted (Nat.le_refl 2)]
    simp [checkState, mode]
  | unrendered failed =>
    rw [granted (Nat.le_succ 2), possible rfl]
    simp [renderCommand, failed]

/-- Where anything is in the way, something is first in the way. -/
theorem exists_firstObstacle {failure : Failure} (h : action.Obstacle scene failure) :
    ∃ first, action.FirstObstacle scene first := by
  by_cases least : ∀ other, action.Obstacle scene other → failure.rank ≤ other.rank
  · exact ⟨failure, h, least⟩
  · simp only [Classical.not_forall, Nat.not_le] at least
    obtain ⟨other, stands, lower⟩ := least
    exact exists_firstObstacle stands
termination_by failure.rank

theorem authorized_of_prepare {pending : Pending}
    (h : action.prepare scene.actor scene.world = .ok pending) : action.Authorized scene := by
  rw [authorized_iff]
  intro failure obstacle
  obtain ⟨first, stands⟩ := exists_firstObstacle obstacle
  rw [prepare_of_first stands] at h
  cases h

end Action

/-! ## Answers to what is not authorized -/

/-- A hook was asked, the host was called for more than a text, or something was changed. -/
def Exchange.Acts (exchange : Exchange) : Prop :=
  (∃ call ∈ exchange.turn.progress.calls, ∀ text, call ≠ .send text) ∨
    exchange.turn.progress.scene ≠ exchange.scene

/-- An action that fails a check is answered with its failure, and with texts at most. -/
theorem Scene.Answer.unprepared {scene : Scene} {hooks : List Hook} {action : Action} {turn : Turn}
    {failure : Failure} (h : scene.Answer hooks action turn)
    (failed : action.prepare scene.actor scene.world = .error failure) :
    turn.result = .error failure ∧ turn.progress.scene = scene ∧
      ∀ call ∈ turn.progress.calls, ∃ text, call = .send text := by
  have result : (scene.run hooks action).result = .error failure := by simp [run, failed]
  have same : (scene.run hooks action).progress.scene = scene := by
    simp [run, failed, Progress.log]
  have silent : (scene.run hooks action).progress.calls = [] := by
    simp [run, failed, Progress.log]
  cases h with
  | plain => exact ⟨result, same, by simp [silent]⟩
  | @told failure' failed' =>
    refine ⟨result, by rw [scene_tellFailure, same], ?_⟩
    obtain ⟨told, calls, sent, -⟩ :=
      calls_tellFailure (scene.run hooks action).progress failure'
    rw [calls, silent]
    rcases sent with rfl | ⟨text, rfl⟩ <;> simp
  | edited completed =>
    rw [result] at completed
    cases completed

/-- **Nothing is done without authorization.** In every session, a request that is answered
stands for an action. Unless the action is authorized in the scene in which it is asked for, no
hook is asked, the host is called for texts at most, and nothing changes. If something is in its
way, the answer names what is first in its way. -/
theorem Server.authorized_of_acts {server : Server} {events : List Server.Event}
    {exchange : Exchange} (mem : exchange ∈ server.exchanges events) :
    ∃ action, exchange.scene.actionFor exchange.request = some action ∧
      (exchange.Acts → action.Authorized exchange.scene) ∧
      ∀ failure, action.FirstObstacle exchange.scene failure →
        exchange.turn.result = .error failure := by
  obtain ⟨first, event, rest, -, met⟩ := exists_of_mem_exchanges mem
  obtain ⟨action, stands, answer⟩ := Scene.answer_cases (hosts_of_exchange? met).answered
  refine ⟨action, stands, fun acts => ?_, fun failure obstacle => ?_⟩
  · cases checked : action.prepare exchange.scene.actor exchange.scene.world with
    | ok pending => exact Action.authorized_of_prepare checked
    | error failure =>
      obtain ⟨-, same, texts⟩ := answer.unprepared checked
      rcases acts with ⟨call, called, more⟩ | changed
      · obtain ⟨text, rfl⟩ := texts call called
        exact absurd rfl (more text)
      · exact absurd same changed
  · exact (answer.unprepared (Action.prepare_of_first obstacle)).1

/-- A console without any rights, and a player about to make a mob heal. -/
def Server.gatehouse : Server where
  actors := [{ name := "Console", isPlayer := false, holds := fun _ => false },
    { name := "Ada", holds := fun _ => true, mode := .creating (.command "heal" "heal \x7b\x7d") }]
  world := { rules := { configuration := .error .homeNotFound } }
  messages := {}

/-- The console asks to be taken to a warp that does not exist; the player uses a mob, and a hook
vetoes that. -/
def Server.visits : List Server.Event :=
  [.ask [] 0 (.report (.warp ⟨"spawn"⟩)), .ask [fun _ => false] 1 (.interact ⟨7⟩)]

theorem Server.gatehouse_visits :
    (∃ exchange ∈ gatehouse.exchanges visits,
      Action.Obstacle exchange.scene (.warp ⟨"spawn"⟩) (.permission (.useWarp ⟨"spawn"⟩)) ∧
      Action.Obstacle exchange.scene (.warp ⟨"spawn"⟩) (.warpNotFound ⟨"spawn"⟩) ∧
      exchange.turn.result = .error .playerOnly) ∧
    ∃ exchange ∈ gatehouse.exchanges visits, exchange.turn.result = .ok .vetoed ∧
      (Action.create ⟨7⟩ (.command "heal" "heal \x7b\x7d")).Authorized exchange.scene := by
  constructor
  · refine ⟨_, List.mem_cons_self, .incapable rfl rfl, .nowhere rfl, ?_⟩
    obtain ⟨action, stands, -, refused⟩ := @authorized_of_acts gatehouse visits _ List.mem_cons_self
    cases stands
    exact refused _ ⟨.console rfl rfl, fun _ _ => Nat.zero_le _⟩
  · refine ⟨_, List.mem_cons_of_mem _ List.mem_cons_self, rfl, ?_⟩
    obtain ⟨action, stands, allowed, -⟩ := @authorized_of_acts gatehouse visits _
      (List.mem_cons_of_mem _ List.mem_cons_self)
    cases stands
    exact allowed (.inl ⟨_, List.mem_cons_self, nofun⟩)

end InteractiveMobs
