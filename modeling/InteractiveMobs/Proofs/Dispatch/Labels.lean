import InteractiveMobs.Proofs.Dispatch.Records

/-!
# Labels and bindings

Above a mob that leads to a warp there is a label, and above no other. Labels and bindings are
two records, entered one after the other, and a message that cannot be rendered may come between
or behind them; `Server.consistent_after` says that they are in step whatever happens, and that
a label reads as the messages had it when the mob was bound.
-/

namespace InteractiveMobs
set_option autoImplicit false

/-- A mob has a label just if it is bound to a warp. -/
def World.Consistent (world : World) : Prop :=
  ∀ mob, (world.label? mob).isSome ↔ ∃ name, world.binding? mob = some (.warp name)

namespace Scene.Entry

variable {scene : Scene} {action : Action} {calls : List Call} {world : World}

theorem consistent (h : scene.Entry action calls world) (before : scene.world.Consistent) :
    world.Consistent := by
  cases h with
  | nothing => exact before
  | setWarp | deleteWarp =>
    intro mob
    simpa using before mob
  | @lead mob name text =>
    intro other
    by_cases same : other = mob
    · simp [same, World.binding?_bind, World.label?_setLabel]
    · simpa [same, World.binding?_bind, World.label?_setLabel] using before other
  | @serve mob name line free =>
    -- the mob has no label either, because it was not bound
    intro other
    by_cases same : other = mob
    · have bare := before mob
      simp only [free] at bare
      simp [same, World.binding?_bind, bare]
    · simpa [same, World.binding?_bind] using before other
  | @remove mob =>
    intro other
    by_cases same : other = mob
    · simp [same, World.binding?_unbind, World.label?_setLabel]
    · simpa [same, World.binding?_unbind, World.label?_setLabel] using before other

/-- Binding a mob to a warp labels it in the words of the messages in force. -/
theorem labelled {mob : MobId} {name : WarpName} (h : scene.Entry action calls world)
    (bound : .bind mob (.warp name) ∈ calls) :
    ∃ text, scene.messages.render ⟨"mob-name-text"⟩ [name.text] = .ok text ∧
      world.label? mob = some text := by
  cases h with
  | lead free labelled =>
    simp only [List.mem_cons, reduceCtorEq, List.not_mem_nil, or_false, false_or] at bound
    cases bound
    exact ⟨_, labelled, by simp [World.label?_setLabel]⟩
  | _ => simp at bound

/-- A mob that is bound before and after keeps its label. -/
theorem label?_eq {mob : MobId} (h : scene.Entry action calls world)
    (before : scene.world.binding? mob ≠ none) (behind : world.binding? mob ≠ none) :
    world.label? mob = scene.world.label? mob := by
  cases h with
  | nothing => rfl
  | setWarp | deleteWarp => simp
  | @lead other name text free =>
    have ne : mob ≠ other := by
      rintro rfl
      exact before free
    simp [World.label?_setLabel, ne]
  | serve => simp
  | @remove other =>
    have ne : mob ≠ other := by
      rintro rfl
      simp [World.binding?_unbind] at behind
    simp [World.label?_setLabel, ne]

end Scene.Entry

namespace Server

variable {server : Server}

theorem consistent_next (h : server.world.Consistent) {event : Event} (orderly : event.IsOrderly) :
    (server.next event).world.Consistent := by
  cases met : server.exchange? event with
  | none =>
    rw [world_next_of_silent orderly met]
    exact h
  | some exchange =>
    have hosts := hosts_of_exchange? met
    obtain ⟨action, -, entry⟩ := hosts.entry
    exact entry.consistent (hosts.world ▸ h)

/-- As long as a mob stays bound, it keeps its label. -/
theorem label?_after {mob : MobId} {events : List Event}
    (orderly : ∀ event ∈ events, event.IsOrderly)
    (bound : server.Throughout events fun world => world.binding? mob ≠ none) :
    (server.after events).world.label? mob = server.world.label? mob :=
  kept_after (fun _ _ => rfl) (fun _ _ _ _ entry => entry.label?_eq) orderly bound

/-- **Labels stay in step with bindings.** If a mob has a label just if it is bound to a warp,
that is so after any orderly session, whatever was asked in it and however it was answered. A mob
that is bound to a warp in the session has, as long as it stays bound, the label that the messages
gave to the warp when the mob was bound. -/
theorem consistent_after (consistent : server.world.Consistent) {events : List Event}
    (orderly : ∀ event ∈ events, event.IsOrderly) :
    (server.after events).world.Consistent ∧
      ∀ first event rest exchange mob name, events = first ++ event :: rest →
        (server.after first).exchange? event = some exchange →
        .bind mob (.warp name) ∈ exchange.turn.progress.calls →
        ((server.after first).next event).Throughout rest (·.binding? mob ≠ none) →
        ∃ text,
          (server.after first).messages.render ⟨"mob-name-text"⟩ [name.text] = .ok text ∧
            (server.after events).world.label? mob = some text := by
  constructor
  · induction events generalizing server with
    | nil => exact consistent
    | cons event rest ih =>
      obtain ⟨here, later⟩ := List.forall_mem_cons.1 orderly
      exact ih (consistent_next consistent here) later
  · rintro first event rest exchange mob name rfl met bind bound
    have hosts := hosts_of_exchange? met
    obtain ⟨action, -, entry⟩ := hosts.entry
    have entered : .bind mob (.warp name) ∈ exchange.entries := List.mem_filter.2 ⟨bind, rfl⟩
    obtain ⟨text, rendered, label⟩ := entry.labelled entered
    refine ⟨text, hosts.messages ▸ rendered, ?_⟩
    rw [after_append, ← label]
    refine label?_after (fun later mem => orderly later ?_) bound
    exact List.mem_append_right _ (List.mem_cons_of_mem _ mem)

/-- A player about to make a mob lead to the one warp. Only labels have words. -/
def signpost : Server where
  actors := [{ name := "Ada", holds := fun _ => true, mode := .creating (.warp ⟨"spawn"⟩) }]
  world :=
    { warps := .ofList [(⟨"spawn"⟩, "Bob")]
      rules := { configuration := .error .homeNotFound } }
  messages := .ofConfig (.ofEntries [("mob-name-text", "&b\x7b\x7d")])

/-- The player uses a mob, which fails over the message behind it, and then all words are lost. -/
theorem signpost_label : signpost.world.Consistent ∧
    ∃ text, signpost.messages.render ⟨"mob-name-text"⟩ ["spawn"] = .ok text ∧
      (signpost.after [.ask [] 0 (.interact ⟨7⟩), .load {}]).world.label? ⟨7⟩ = some text := by
  have consistent : signpost.world.Consistent := by
    intro mob
    exact iff_of_false Bool.false_ne_true fun ⟨_, bound⟩ => nomatch bound
  have orderly : ∀ event ∈ [Event.ask [] 0 (.interact ⟨7⟩), .load {}], event.IsOrderly := by
    simp [Event.IsOrderly]
  refine ⟨consistent, ?_⟩
  refine (consistent_after consistent orderly).2 [] (.ask [] 0 (.interact ⟨7⟩)) [.load {}] _ ⟨7⟩
    ⟨"spawn"⟩ rfl rfl ?_ (.cons ?_ (.nil ?_))
  · exact List.mem_cons_of_mem _ List.mem_cons_self
  · exact nofun
  · exact nofun

end Server
end InteractiveMobs
