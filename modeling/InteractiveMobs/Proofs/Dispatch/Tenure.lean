import InteractiveMobs.Proofs.Dispatch.Records

/-!
# Nothing is overwritten

A mob has at most one binding at a time, and a warp at most one owner. `Tenure` says that a place
is taken only while it is free and freed only while it is taken; `Server.tenure` says it of the
binding of each mob and of the owner of each warp, over whole sessions, if nobody but the actors
changes them. A mob's calls for a binding all take effect. The host may turn down what is asked
of warps, so of these calls only the effective ones count.
-/

namespace InteractiveMobs
set_option autoImplicit false

/-! ## Places that are taken and freed -/

/-- The changes of a place, from what holds it first to what holds it last. -/
inductive Tenure {α : Type} : Option α → List (Option α) → Option α → Prop where
  | still {now : Option α} : Tenure now [] now
  | take {holder : α} {rest : List (Option α)} {last : Option α}
    (later : Tenure (some holder) rest last) : Tenure none (some holder :: rest) last
  | free {holder : α} {rest : List (Option α)} {last : Option α}
    (later : Tenure none rest last) : Tenure (some holder) (none :: rest) last

namespace Tenure

variable {α : Type} {first middle last : Option α} {changes before behind : List (Option α)}

theorem trans (h : Tenure first before middle) (h' : Tenure middle behind last) :
    Tenure first (before ++ behind) last := by
  induction h with
  | still => exact h'
  | take later ih => exact .take (ih h')
  | free later ih => exact .free (ih h')

/-- Nobody takes a place that is not freed. -/
theorem eq_nil_of_kept {holder : α} (h : Tenure (some holder) changes last)
    (kept : none ∉ changes) : changes = [] := by
  cases h with
  | still => rfl
  | free later => exact absurd List.mem_cons_self kept

/-- A place that is not freed is taken once at most. -/
theorem length_le_one (h : Tenure first changes last) (kept : none ∉ changes) :
    changes.length ≤ 1 := by
  cases h with
  | still => exact Nat.zero_le 1
  | take later =>
    rw [eq_nil_of_kept later fun freed => kept (List.mem_cons_of_mem _ freed)]
    exact Nat.le_refl 1
  | free later => exact absurd List.mem_cons_self kept

end Tenure

/-! ## Calls and what they change -/

namespace Call

/-- The change of a mob's binding that a call asks for. -/
def bindingOf (mob : MobId) : Call → Option (Option Binding)
  | .bind other binding => if other = mob then some (some binding) else none
  | .unbind other => if other = mob then some none else none
  | _ => none

/-- The change of a warp's owner that a call asks for. -/
def ownerOf (name : WarpName) : Call → Option (Option String)
  | .setWarp other owner => if other = name then some (some owner) else none
  | .removeWarp other => if other = name then some none else none
  | _ => none

/-- Only entries ask for a change of a binding. -/
theorem bindingOf_entries (mob : MobId) (calls : List Call) :
    (calls.filter isEntry).filterMap (bindingOf mob) = calls.filterMap (bindingOf mob) := by
  rw [List.filterMap_filter]
  congr 1
  funext call
  cases call <;> simp [isEntry, bindingOf]

end Call

namespace World

/-- The world after the host has done what a call asks of its records; nothing if it turns the
call down, or the call is about something else. -/
def obey (world : World) : Call → Option World
  | .setWarp name owner => world.createWarp name owner
  | .removeWarp name => world.removeWarp name
  | .bind mob binding => some (world.bind mob binding)
  | .unbind mob => if (world.binding? mob).isSome then some (world.unbind mob) else none
  | .setMobName mob label => some (world.setLabel mob label)
  | .hook _ _ | .send _ | .command _ | .teleport _ | .setMode _ | .loadMessages => none

/-- Those of a list of calls that take effect on the records. -/
def effective (world : World) : List Call → List Call
  | [] => []
  | call :: rest =>
    match world.obey call with
    | some after => call :: after.effective rest
    | none => world.effective rest

theorem effective_filter (world : World) (calls : List Call) :
    world.effective (calls.filter Call.isEntry) = world.effective calls := by
  induction calls generalizing world with
  | nil => rfl
  | cons call rest ih =>
    cases entered : call.isEntry with
    | true =>
      rw [List.filter_cons_of_pos entered, effective, effective]
      split
      next after _ => rw [ih after]
      next => exact ih world
    | false =>
      have idle : world.obey call = none := by
        cases call <;> first | rfl | cases entered
      rw [List.filter_cons_of_neg (Bool.eq_false_iff.1 entered), effective, idle]
      exact ih world

theorem effective_sublist (world : World) (calls : List Call) :
    (world.effective calls).Sublist calls := by
  induction calls generalizing world with
  | nil => exact .slnil
  | cons call rest ih =>
    rw [effective]
    split
    next after _ => exact (ih after).cons_cons call
    next => exact (ih world).cons call

end World

/-- The calls of an exchange that take effect on the records of the world. -/
def Exchange.effective (exchange : Exchange) : List Call :=
  exchange.scene.world.effective exchange.turn.progress.calls

/-! ## One exchange -/

theorem World.tenure_bind {world : World} {mob : MobId} {binding : Binding}
    (free : world.binding? mob = none) (other : MobId) :
    Tenure (world.binding? other) ([.bind mob binding].filterMap (Call.bindingOf other))
      ((world.bind mob binding).binding? other) := by
  by_cases same : other = mob
  · subst same
    simpa [Call.bindingOf, List.filterMap_cons, binding?_bind, free] using Tenure.take .still
  · simpa [Call.bindingOf, List.filterMap_cons, binding?_bind, same, Ne.symm same]
      using Tenure.still

theorem World.tenure_unbind {world : World} {mob : MobId} (bound : world.binding? mob ≠ none)
    (other : MobId) :
    Tenure (world.binding? other) ([.unbind mob].filterMap (Call.bindingOf other))
      ((world.unbind mob).binding? other) := by
  by_cases same : other = mob
  · subst same
    obtain ⟨binding, bound⟩ := Option.ne_none_iff_exists'.1 bound
    simpa [Call.bindingOf, List.filterMap_cons, binding?_unbind, bound] using Tenure.free .still
  · simpa [Call.bindingOf, List.filterMap_cons, binding?_unbind, same, Ne.symm same]
      using Tenure.still

theorem World.tenure_createWarp {world : World} {name : WarpName}
    (free : world.hasWarp name = false) (owner : String) (other : WarpName) :
    Tenure (world.owner? other)
      ((world.effective [.setWarp name owner]).filterMap (Call.ownerOf other))
      (((world.createWarp name owner).getD world).owner? other) := by
  cases done : world.createWarp name owner with
  | none => simpa [effective, obey, done] using Tenure.still
  | some after =>
    have left := owner?_of_createWarp done other
    by_cases same : other = name
    · subst same
      have vacant := owner?_eq_none_iff.2 free
      simpa [effective, obey, done, Call.ownerOf, List.filterMap_cons, left, vacant]
        using Tenure.take .still
    · simpa [effective, obey, done, Call.ownerOf, List.filterMap_cons, left, same, Ne.symm same]
        using Tenure.still

theorem World.tenure_removeWarp {world : World} {name : WarpName}
    (there : world.hasWarp name = true) (other : WarpName) :
    Tenure (world.owner? other)
      ((world.effective [.removeWarp name]).filterMap (Call.ownerOf other))
      (((world.removeWarp name).getD world).owner? other) := by
  cases done : world.removeWarp name with
  | none => simpa [effective, obey, done] using Tenure.still
  | some after =>
    have left := owner?_of_removeWarp done other
    by_cases same : other = name
    · subst same
      obtain ⟨owner, owned⟩ := Option.isSome_iff_exists.1 there
      have held : world.owner? other = some owner := owned
      simpa [effective, obey, done, Call.ownerOf, List.filterMap_cons, left, held]
        using Tenure.free .still
    · simpa [effective, obey, done, Call.ownerOf, List.filterMap_cons, left, same, Ne.symm same]
        using Tenure.still

namespace Scene.Entry

variable {scene : Scene} {action : Action} {calls : List Call} {world : World}

theorem tenure_binding (h : scene.Entry action calls world) (mob : MobId) :
    Tenure (scene.world.binding? mob) (calls.filterMap (Call.bindingOf mob))
      (world.binding? mob) := by
  cases h with
  | nothing => exact .still
  | setWarp =>
    rw [World.binding?_createWarp]
    exact .still
  | deleteWarp =>
    rw [World.binding?_removeWarp]
    exact .still
  | @lead other name text free =>
    rw [← World.binding?_setLabel scene.world other mob (some text)]
    exact World.tenure_bind (by simpa using free) mob
  | serve free => exact World.tenure_bind free mob
  | remove bound =>
    rw [World.binding?_setLabel]
    exact World.tenure_unbind bound mob

theorem tenure_owner (h : scene.Entry action calls world) (name : WarpName) :
    Tenure (scene.world.owner? name)
      ((scene.world.effective calls).filterMap (Call.ownerOf name)) (world.owner? name) := by
  cases h with
  | nothing => exact .still
  | setWarp free => exact World.tenure_createWarp free scene.actor.name name
  | deleteWarp there => exact World.tenure_removeWarp there name
  | lead | serve =>
    simpa [World.effective, World.obey, Call.ownerOf, List.filterMap_cons] using Tenure.still
  | remove bound =>
    simpa [World.effective, World.obey, Call.ownerOf, List.filterMap_cons,
      Option.isSome_iff_ne_none.2 bound] using Tenure.still

/-- A warp that is there before and after keeps its owner. -/
theorem owner?_eq {name : WarpName} (h : scene.Entry action calls world)
    (before : scene.world.hasWarp name = true) (behind : world.hasWarp name = true) :
    world.owner? name = scene.world.owner? name := by
  cases h with
  | nothing => rfl
  | @setWarp other free =>
    cases done : scene.world.createWarp other scene.actor.name with
    | none => rfl
    | some after =>
      have ne : name ≠ other := by
        rintro rfl
        exact Bool.false_ne_true (free.symm.trans before)
      exact (World.owner?_of_createWarp done name).trans (if_neg ne)
  | @deleteWarp other there =>
    cases done : scene.world.removeWarp other with
    | none => rfl
    | some after =>
      have left := World.owner?_of_removeWarp done name
      have ne : name ≠ other := by
        rintro rfl
        rw [if_pos rfl, World.owner?_eq_none_iff] at left
        rw [done, Option.getD_some, left] at behind
        cases behind
      exact left.trans (if_neg ne)
  | lead | serve | remove => simp

/-- Whoever has a warp created asked for it, and owns it. -/
theorem creator {name : WarpName} {owner : String} (h : scene.Entry action calls world)
    (created : .setWarp name owner ∈ scene.world.effective calls) :
    action = .setWarp name ∧ owner = scene.actor.name ∧ world.owner? name = some owner := by
  have called := (World.effective_sublist _ _).mem created
  cases h with
  | @setWarp other free =>
    cases List.mem_singleton.1 called
    cases done : scene.world.createWarp name scene.actor.name with
    | none => simp [World.effective, World.obey, done] at created
    | some after =>
      exact ⟨rfl, rfl, (World.owner?_of_createWarp done name).trans (if_pos rfl)⟩
  | _ => simp at called

end Scene.Entry

/-! ## Sessions -/

namespace Server

/-- What becomes of a mob's binding in a session, call by call. -/
def bindingChanges (server : Server) (events : List Event) (mob : MobId) : List (Option Binding) :=
  (server.calls events).filterMap (Call.bindingOf mob)

/-- What becomes of a warp's owner in a session, effective call by effective call. -/
def ownerChanges (server : Server) (events : List Event) (name : WarpName) :
    List (Option String) :=
  ((server.exchanges events).flatMap Exchange.effective).filterMap (Call.ownerOf name)

variable {server : Server}

theorem tenure_next {event : Event} (orderly : event.IsOrderly) :
    (∀ mob, Tenure (server.world.binding? mob)
      (((server.exchange? event).toList.flatMap (·.turn.progress.calls)).filterMap
        (Call.bindingOf mob))
      ((server.next event).world.binding? mob)) ∧
    ∀ name, Tenure (server.world.owner? name)
      (((server.exchange? event).toList.flatMap Exchange.effective).filterMap (Call.ownerOf name))
      ((server.next event).world.owner? name) := by
  cases met : server.exchange? event with
  | none =>
    rw [world_next_of_silent orderly met]
    exact ⟨fun mob => .still, fun name => .still⟩
  | some exchange =>
    have hosts := hosts_of_exchange? met
    obtain ⟨action, -, entry⟩ := hosts.entry
    simp only [Option.toList_some, List.flatMap_singleton, ← hosts.world]
    constructor
    · intro mob
      rw [← Call.bindingOf_entries]
      exact entry.tenure_binding mob
    · intro name
      rw [Exchange.effective, ← World.effective_filter]
      exact entry.tenure_owner name

theorem tenure_binding_after {events : List Event} (orderly : ∀ event ∈ events, event.IsOrderly)
    (mob : MobId) :
    Tenure (server.world.binding? mob) (server.bindingChanges events mob)
      ((server.after events).world.binding? mob) := by
  induction events generalizing server with
  | nil => exact .still
  | cons event rest ih =>
    obtain ⟨here, later⟩ := List.forall_mem_cons.1 orderly
    rw [bindingChanges, calls, exchanges, List.flatMap_append, List.filterMap_append]
    exact ((tenure_next here).1 mob).trans (ih later)

theorem tenure_owner_after {events : List Event} (orderly : ∀ event ∈ events, event.IsOrderly)
    (name : WarpName) :
    Tenure (server.world.owner? name) (server.ownerChanges events name)
      ((server.after events).world.owner? name) := by
  induction events generalizing server with
  | nil => exact .still
  | cons event rest ih =>
    obtain ⟨here, later⟩ := List.forall_mem_cons.1 orderly
    rw [ownerChanges, exchanges, List.flatMap_append, List.filterMap_append]
    exact ((tenure_next here).2 name).trans (ih later)

/-- As long as there is a warp of the name, its owner is the same. -/
theorem owner?_after {name : WarpName} {events : List Event}
    (orderly : ∀ event ∈ events, event.IsOrderly)
    (there : server.Throughout events fun world => world.hasWarp name = true) :
    (server.after events).world.owner? name = server.world.owner? name :=
  kept_after (fun _ _ => rfl) (fun _ _ _ _ entry => entry.owner?_eq) orderly there

/-- **Nothing is overwritten.** In every orderly session, whatever is asked in it and however it is
answered, mobs are bound only while they have no binding and unbound only while they have one, and
warps are created only while there is none of the name and removed only while there is one. So a
mob that no one unbinds is bound once at most, and a warp has one owner as long as it is there:
the actor who asked for it, if it was created in the session. -/
theorem tenure {events : List Event} (orderly : ∀ event ∈ events, event.IsOrderly) :
    (∀ mob, Tenure (server.world.binding? mob) (server.bindingChanges events mob)
        ((server.after events).world.binding? mob) ∧
      (none ∉ server.bindingChanges events mob →
        (server.bindingChanges events mob).length ≤ 1)) ∧
    ∀ name, Tenure (server.world.owner? name) (server.ownerChanges events name)
        ((server.after events).world.owner? name) ∧
      (server.Throughout events (·.hasWarp name = true) →
        (server.after events).world.owner? name = server.world.owner? name) ∧
      ∀ first event rest exchange owner, events = first ++ event :: rest →
        (server.after first).exchange? event = some exchange →
        .setWarp name owner ∈ exchange.effective →
        ((server.after first).next event).Throughout rest (·.hasWarp name = true) →
        exchange.scene.actionFor exchange.request = some (.setWarp name) ∧
          (server.after events).world.owner? name = some exchange.scene.actor.name := by
  refine ⟨fun mob => ?_, fun name => ⟨tenure_owner_after orderly name, owner?_after orderly, ?_⟩⟩
  · have held : Tenure (server.world.binding? mob) (server.bindingChanges events mob)
        ((server.after events).world.binding? mob) := tenure_binding_after orderly mob
    exact ⟨held, held.length_le_one⟩
  · rintro first event rest exchange owner rfl met created there
    have hosts := hosts_of_exchange? met
    obtain ⟨action, stands, entry⟩ := hosts.entry
    rw [Exchange.effective, ← World.effective_filter] at created
    obtain ⟨rfl, rfl, owned⟩ := entry.creator created
    refine ⟨stands, ?_⟩
    rw [after_append, ← owned]
    refine owner?_after (fun later mem => orderly later ?_) there
    exact List.mem_append_right _ (List.mem_cons_of_mem _ mem)

/-- Two players about to make a mob do something, and no words for it. -/
def rivals : Server where
  actors := [{ name := "Ada", holds := fun _ => true, mode := .creating (.command "hi" "hi") },
    { name := "Bob", holds := fun _ => true, mode := .creating (.warp ⟨"spawn"⟩) }]
  world := { rules := { configuration := .error .homeNotFound } }
  messages := {}

/-- Ada creates a warp, and then both use one mob. -/
def contest : List Event :=
  [.ask [] 0 (.run (.setWarp ⟨"spawn"⟩)), .ask [] 0 (.interact ⟨7⟩), .ask [] 1 (.interact ⟨7⟩)]

theorem rivals_contest :
    (rivals.exchanges contest).length = 3 ∧
      rivals.bindingChanges contest ⟨7⟩ = [some (.command "hi" "hi")] ∧
      (rivals.bindingChanges contest ⟨7⟩).length ≤ 1 ∧
      (rivals.after contest).world.owner? ⟨"spawn"⟩ = some "Ada" := by
  have orderly : ∀ event ∈ contest, event.IsOrderly := by
    simp [contest, Event.IsOrderly]
  obtain ⟨mobs, warps⟩ := @tenure rivals contest orderly
  refine ⟨rfl, rfl, (mobs ⟨7⟩).2 (by decide), ?_⟩
  have created := (warps ⟨"spawn"⟩).2.2 [] (.ask [] 0 (.run (.setWarp ⟨"spawn"⟩)))
    [.ask [] 0 (.interact ⟨7⟩), .ask [] 1 (.interact ⟨7⟩)] _ "Ada" rfl rfl List.mem_cons_self
    (.cons rfl (.cons rfl (.nil rfl)))
  exact created.2

end Server
end InteractiveMobs
