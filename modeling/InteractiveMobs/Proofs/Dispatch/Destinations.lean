import InteractiveMobs.Proofs.Dispatch.Footprint
import InteractiveMobs.Proofs.Dispatch.Modes
import InteractiveMobs.Proofs.Dispatch.Tenure

/-!
# Where mobs lead

A mob is to lead to a warp that is there. An actor who enters create mode for a warp finds it
checked, but the mob is chosen later, and by then the warp may be gone; and a creation that is
asked for without the mode is not checked at all. `Server.destination_of_bind` says how a mob comes
to lead to a warp, and when the warp is there. `Server.nowhere_bound` is the smallest session in
which it is not.
-/

namespace InteractiveMobs
set_option autoImplicit false

/-- The last change of a place decides what holds it. -/
theorem Tenure.last_eq {α : Type} {first last : Option α} {changes : List (Option α)}
    (h : Tenure first changes last) : last = changes.getLast?.getD first := by
  induction h with
  | still => rfl
  | take later ih => simp [List.getLast?_cons, ih]
  | free later ih => simp [List.getLast?_cons, ih]

theorem World.hasWarp_iff {world : World} {name : WarpName} :
    world.hasWarp name = true ↔ world.owner? name ≠ none := by
  rw [Ne, World.owner?_eq_none_iff, Bool.not_eq_false]

/-- A mob is bound only by its creation. -/
theorem Scene.Entry.create_of_bind {scene : Scene} {action : Action} {calls : List Call}
    {world : World} {mob : MobId} {binding : Binding} (h : scene.Entry action calls world)
    (bound : .bind mob binding ∈ calls) : action = .create mob binding := by
  cases h <;> simp_all

/-- Using a mob stands for a creation only in create mode. -/
theorem Scene.creating_of_actionOn {scene : Scene} {mob other : MobId} {binding : Binding}
    (h : scene.actionOn other = some (.create mob binding)) :
    scene.actor.mode = .creating binding ∧ other = mob := by
  unfold actionOn at h
  split at h
  next held mode =>
    cases h
    exact ⟨mode, rfl⟩
  next => cases h
  next =>
    obtain ⟨held, -, same⟩ := Option.map_eq_some_iff.1 h
    cases held <;> cases same

/-! ## Other warps -/

/-- The scene with other warps in it. -/
def Scene.withWarps (scene : Scene) (warps : Table WarpName String) : Scene :=
  { scene with world := { scene.world with warps } }

/-- A creation does the same whatever warps there are. -/
theorem Scene.calls_run_create (scene : Scene) (hooks : List Hook) (mob : MobId)
    (binding : Binding) (warps : Table WarpName String) :
    ((scene.withWarps warps).run hooks (.create mob binding)).progress.calls =
      (scene.run hooks (.create mob binding)).progress.calls := by
  -- The warp it mentions is not looked at, so the scenes need to agree on mobs only.
  have mobs : (scene.withWarps warps).AgreeOn scene fun site => ∀ name, site ≠ .warp name :=
    ⟨rfl, ⟨fun name other => absurd rfl (other name), fun _ _ => rfl, fun _ _ => rfl, rfl⟩, rfl⟩
  have checks : (Action.create mob binding).prepare (scene.withWarps warps).actor
      (scene.withWarps warps).world =
        (Action.create mob binding).prepare scene.actor scene.world := rfl
  refine (run_agree_of_moves checks (fun pending same => ?_) mobs hooks).progress.calls
  obtain ⟨actor, action, command⟩ := pending
  cases same
  cases binding <;> simp [Pending.moves, Move.sites]

namespace Server

/-- **Where a mob leads.** In an orderly session that nobody began in create or remove mode, let a
request bind a mob to a warp. Either its actor used the mob in create mode, and entered that mode
earlier in the session, when the warp was there; then the warp is there now unless what was last
done to it since is its removal. Or the actor asked for the creation itself, and then the mob is
bound whatever warps there are. -/
theorem destination_of_bind {server : Server} (idle : ∀ actor ∈ server.actors, actor.mode = .idle)
    {past : List Event} (orderly : ∀ event ∈ past, event.IsOrderly) {hooks : List Hook}
    {index : Nat} {request : Request} {exchange : Exchange} {mob : MobId} {name : WarpName}
    (met : (server.after past).exchange? (.ask hooks index request) = some exchange)
    (bound : .bind mob (.warp name) ∈ exchange.turn.progress.calls) :
    (request = .interact mob ∧ ∃ before hooks' request' between start,
      past = before ++ .ask hooks' index request' :: between ∧
      (server.after before).exchange? (.ask hooks' index request') = some start ∧
      start.scene.actionFor request' = some (.startCreate (.warp name)) ∧
      start.scene.world.hasWarp name = true ∧
      (exchange.scene.world.hasWarp name = true ↔
        ((server.after before).ownerChanges (.ask hooks' index request' :: between) name).getLast? ≠
          some none)) ∨
    ((request = .run (.create mob (.warp name)) ∨ request = .report (.create mob (.warp name))) ∧
      ∀ warps, ∃ turn, (exchange.scene.withWarps warps).answer hooks request = some turn ∧
        .bind mob (.warp name) ∈ turn.progress.calls) := by
  obtain ⟨seated, rfl, rfl, -⟩ := actor_of_exchange? met
  have hosts := hosts_of_exchange? met
  obtain ⟨action, stands, answer⟩ := Scene.answer_cases hosts.answered
  obtain rfl : action = .create mob (.warp name) :=
    answer.entry.create_of_bind (List.mem_filter.2 ⟨bound, rfl⟩)
  have created : .bind mob (.warp name) ∈
      (exchange.scene.run exchange.hooks (.create mob (.warp name))).progress.calls := by
    obtain ⟨added, calls, kind⟩ := answer.calls_eq
    rw [calls, List.mem_append] at bound
    rcases kind with rfl | ⟨text, rfl⟩ | rfl <;> simpa using bound
  have again (warps : Table WarpName String) {turn : Turn}
      (h : (exchange.scene.withWarps warps).Answer exchange.hooks (.create mob (.warp name)) turn) :
      .bind mob (.warp name) ∈ turn.progress.calls := by
    obtain ⟨added, calls, -⟩ := h.calls_eq
    rw [calls, Scene.calls_run_create]
    exact List.mem_append_left _ created
  cases asked : exchange.request with
  | interact other =>
    rw [asked] at stands
    obtain ⟨creating, rfl⟩ := Scene.creating_of_actionOn stands
    have mode : (server.after past).mode? index = some (.creating (.warp name)) := by
      rw [mode?, seated, Option.map_some, creating]
    obtain ⟨before, hooks, request, between, start, rfl, begun, starts, allowed⟩ :=
      exists_start idle orderly mode
    refine .inl ⟨rfl, before, hooks, request, between, start, rfl, begun, starts, allowed.ready, ?_⟩
    have there : (server.after before).world.owner? name ≠ none := by
      rw [← World.hasWarp_iff, ← (hosts_of_exchange? begun).world]
      exact allowed.ready
    obtain ⟨owner, owned⟩ := Option.ne_none_iff_exists'.1 there
    have later : ∀ event ∈ .ask hooks index request :: between, event.IsOrderly :=
      fun event mem => orderly event (List.mem_append_right _ mem)
    have held := (server.after before).tenure_owner_after later name
    rw [World.hasWarp_iff, hosts.world, after_append, held.last_eq, owned]
    cases changes : ((server.after before).ownerChanges _ name).getLast? with
    | none => simp
    | some last => simp
  | run action =>
    rw [asked] at stands
    cases stands
    exact .inr ⟨.inl rfl, fun warps => ⟨_, rfl, again warps .plain⟩⟩
  | report action =>
    rw [asked] at stands
    cases stands
    refine .inr ⟨.inr rfl, fun warps => ⟨_, rfl, ?_⟩⟩
    have answered : (exchange.scene.withWarps warps).answer exchange.hooks
        (.report (.create mob (.warp name))) = some _ := rfl
    obtain ⟨action, stands, told⟩ := Scene.answer_cases answered
    cases stands
    exact again warps told

/-- Ada means to make a mob lead to the one warp. -/
def crossroads : Server where
  actors := [{ name := "Ada", holds := fun _ => true }, { name := "Bob", holds := fun _ => true }]
  world :=
    { warps := .ofList [(⟨"spawn"⟩, "Bob")]
      rules := { configuration := .error .homeNotFound } }
  messages := .ofConfig (.ofEntries [("mob-name-text", "&b\x7b\x7d")])

/-- Bob deletes the warp while Ada looks for a mob. -/
def detour : List Event :=
  [.ask [] 0 (.run (.startCreate (.warp ⟨"spawn"⟩))), .ask [] 1 (.run (.deleteWarp ⟨"spawn"⟩))]

theorem crossroads_detour :
    ∃ exchange, (crossroads.after detour).exchange? (.ask [] 0 (.interact ⟨7⟩)) = some exchange ∧
      .bind ⟨7⟩ (.warp ⟨"spawn"⟩) ∈ exchange.turn.progress.calls ∧
      exchange.scene.world.hasWarp ⟨"spawn"⟩ = false := by
  have idle : ∀ actor ∈ crossroads.actors, actor.mode = .idle := by simp [crossroads]
  have orderly : ∀ event ∈ detour, event.IsOrderly := by simp [detour, Event.IsOrderly]
  have met : (crossroads.after detour).exchange? (.ask [] 0 (.interact ⟨7⟩)) = some _ := rfl
  refine ⟨_, met, List.mem_cons_of_mem _ List.mem_cons_self, ?_⟩
  rcases destination_of_bind idle orderly met (List.mem_cons_of_mem _ List.mem_cons_self) with
    ⟨-, before, hooks, request, between, start, split, -, -, -, there⟩ | ⟨direct, -⟩
  · -- The one request of Ada's own is the first event.
    rcases before with _ | ⟨_, _ | ⟨_, _ | _⟩⟩ <;> cases split
    exact Bool.eq_false_iff.2 fun kept => there.1 kept rfl
  · rcases direct with run | report
    · cases run
    · cases report

/-- A mob is bound to a warp in a world without warps. -/
theorem nowhere_bound :
    ¬ ∀ (server : Server) (past : List Event) (hooks : List Hook) (index : Nat) (request : Request)
      (exchange : Exchange) (mob : MobId) (name : WarpName),
      (∀ actor ∈ server.actors, actor.mode = .idle) → (∀ event ∈ past, event.IsOrderly) →
        (server.after past).exchange? (.ask hooks index request) = some exchange →
          .bind mob (.warp name) ∈ exchange.turn.progress.calls →
            exchange.scene.world.hasWarp name = true := by
  intro claim
  have idle : ∀ actor ∈ crossroads.actors, actor.mode = .idle := by simp [crossroads]
  have there := claim crossroads [] [] 0 (.run (.create ⟨7⟩ (.warp ⟨"nowhere"⟩))) _ ⟨7⟩ ⟨"nowhere"⟩
    idle (by simp) rfl (List.mem_cons_of_mem _ List.mem_cons_self)
  cases there

end Server
end InteractiveMobs
