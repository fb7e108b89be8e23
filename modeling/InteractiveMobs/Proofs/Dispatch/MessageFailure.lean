import InteractiveMobs.Proofs.Dispatch.Course

/-!
# Actions that fail over a message

An action that fails because a message cannot be rendered may have been carried out already:
words come after deeds. `untouched_iff_traceless` says exactly when everything is as before all
the same. The message in question is then the action's own command line, or the label of a mob,
which is rendered first; or the deeds of the action change nothing that lasts.
-/

namespace InteractiveMobs
set_option autoImplicit false

/-- Everything that an action may change is as before. -/
structure Scene.Untouched (before after : Scene) : Prop where
  warps : after.world.warps = before.world.warps
  bindings : after.world.bindings = before.world.bindings
  labels : after.world.labels = before.world.labels
  mode : after.actor.mode = before.actor.mode
  messages : after.messages = before.messages

theorem Scene.Untouched.refl (scene : Scene) : scene.Untouched scene := ⟨rfl, rfl, rfl, rfl, rfl⟩

/-- Nothing is left of the action in the scene when a message of it cannot be rendered. -/
def Action.Traceless (action : Action) (scene : Scene) : Prop :=
  match action with
  | .runCommand _ _ | .warp _ | .listWarps => True
  | .startCreate binding => scene.actor.mode = .creating binding
  | .startRemove => scene.actor.mode = .removing
  | .create _ (.warp name) =>
    ∃ error, scene.messages.render ⟨"mob-name-text"⟩ [name.text] = .error error
  | .reload =>
    ∃ config, scene.world.rules.configuration = .ok config ∧
      MessageSet.ofConfig config = scene.messages
  | .setWarp _ | .deleteWarp _ | .cancel | .create _ (.command _ _) | .remove _ => False

/-! ## Deeds that leave a trace -/

namespace Table

variable {κ α : Type} [Ord κ] [Std.LawfulEqOrd κ] [Std.TransOrd κ] [DecidableEq κ]

theorem insert_ne_self {table : Table κ α} {key : κ} (h : table.contains key = false) (value : α) :
    table.insert key value ≠ table := by
  intro same
  have there : (table.insert key value).contains key = true := by
    rw [contains_insert]
    simp
  rw [same, h] at there
  cases there

omit [Std.TransOrd κ] in
theorem erase_ne_self {table : Table κ α} {key : κ} (h : table.contains key = true) :
    table.erase key ≠ table := by
  intro same
  have gone : (table.erase key).contains key = false := by
    rw [contains, get?_erase]
    simp
  rw [same, h] at gone
  cases gone

end Table

namespace World

theorem warps_createWarp_ne {world after : World} {name : WarpName} {owner : String}
    (h : world.createWarp name owner = some after) : after.warps ≠ world.warps := by
  unfold createWarp at h
  split at h
  next => cases h
  next free =>
    cases h
    rw [Bool.or_eq_true, not_or, Bool.not_eq_true, Bool.not_eq_true] at free
    exact Table.insert_ne_self free.2 owner

theorem warps_removeWarp_ne {world after : World} {name : WarpName}
    (h : world.removeWarp name = some after) : after.warps ≠ world.warps := by
  unfold removeWarp at h
  split at h
  next => cases h
  next there =>
    cases h
    rw [Bool.or_eq_true, not_or, Bool.not_eq_true, Bool.not_eq_true, Bool.not_eq_false'] at there
    exact Table.erase_ne_self there.2

end World

/-! ## Where a message fails -/

theorem Action.checkActor_ne_message (action : Action) (actor : Actor) (error : MessageError) :
    action.checkActor actor ≠ .error (.message error) := by
  unfold checkActor
  intro h
  split at h
  next => cases h
  next =>
    split at h
    next => split at h <;> cases h
    next => cases h

theorem Action.checkState_ne_message (action : Action) (actor : Actor) (world : World)
    (error : MessageError) : action.checkState actor world ≠ .error (.message error) := by
  unfold checkState
  intro h
  split at h <;> first
    | cases h
    | split at h <;> cases h

/-- The only message that checking renders is a command line. -/
theorem Action.prepare_message {action : Action} {actor : Actor} {world : World}
    {error : MessageError} (h : action.prepare actor world = .error (.message error)) :
    ∃ name line, action = .runCommand name line := by
  rcases failed_of_prepare h with refused | refused | unrendered
  · exact absurd refused (checkActor_ne_message _ _ _)
  · exact absurd refused (checkState_ne_message _ _ _ _)
  · cases action with
    | runCommand name line => exact ⟨name, line, rfl⟩
    | _ => cases unrendered

/-- The only deed that renders a message labels a mob. -/
theorem Pending.of_rendering_deed {pending : Pending} {move : Move} (mem : move ∈ pending.deeds)
    (renders : move.isRendering = true) :
    ∃ mob name, pending.action = .create mob (.warp name) := by
  obtain ⟨actor, action, command⟩ := pending
  rcases action with _ | _ | _ | _ | _ | _ | _ | _ | ⟨mob, _ | name⟩ | _ | _
  case create.warp => exact ⟨mob, name, rfl⟩
  case listWarps => cases mem
  all_goals
    simp only [deeds, List.mem_cons, List.not_mem_nil, or_false] at mem
    rcases mem with rfl | rfl <;> cases renders

/-- A label is rendered before anything is done. -/
theorem Pending.deeds_message {pending : Pending} {p q : Progress} {error : MessageError}
    (h : Move.makeAll pending.deeds p = (q, some (.message error))) :
    q.scene = p.scene ∧ pending.action.Traceless p.scene := by
  obtain ⟨move, mem, before, failed⟩ := Move.exists_of_makeAll_failed h
  have renders : move.isRendering = true := by
    rcases (Move.make_failed failed).2 with ⟨-, request, refused, -⟩ | ⟨renders, -⟩
    · cases refused
    · exact renders
  obtain ⟨mob, name, labels⟩ := of_rendering_deed mem renders
  have deeds_eq : pending.deeds = [.label mob name, .bind mob (.warp name)] := by
    rw [deeds, labels]
  rw [deeds_eq, Move.makeAll_cons] at h
  split at h
  next made => cases h
  next failure unlabelled =>
    cases h
    refine ⟨(Move.make_failed unlabelled).1, ?_⟩
    rw [labels]
    simp only [Move.make] at unlabelled
    split at unlabelled
    next => cases unlabelled
    next error' unrendered => exact ⟨error', unrendered⟩

theorem Move.warps_createWarp_made {name : WarpName} {owner : String} {p q : Progress}
    (made : (createWarp name owner).make p = (q, none)) :
    q.scene.world.warps ≠ p.scene.world.warps := by
  simp only [make] at made
  split at made
  next world created =>
    cases made
    exact World.warps_createWarp_ne created
  next => cases made

theorem Move.warps_removeWarp_made {name : WarpName} {p q : Progress}
    (made : (removeWarp name).make p = (q, none)) :
    q.scene.world.warps ≠ p.scene.world.warps := by
  simp only [make] at made
  split at made
  next world removed =>
    cases made
    exact World.warps_removeWarp_ne removed
  next => cases made

theorem Move.bindings_label (mob : MobId) (name : WarpName) (scene : Scene) :
    ((label mob name).effect scene).world.bindings = scene.world.bindings := by
  unfold effect
  dsimp only
  split <;> rfl

/-- Once its deeds are done, an action has left no trace only where it could not leave one. -/
theorem Pending.untouched_deeds_iff {pending : Pending} {p q : Progress}
    (checked : pending.action.checkState p.scene.actor p.scene.world = .ok ())
    (done : Move.makeAll pending.deeds p = (q, none)) :
    p.scene.Untouched q.scene ↔ pending.action.Traceless p.scene := by
  have left := Move.scene_of_makeAll_done done
  obtain ⟨actor, action, command⟩ := pending
  dsimp only at checked ⊢
  cases action with
  | runCommand name line => exact iff_of_true (left ▸ .refl _) trivial
  | warp name => exact iff_of_true (left ▸ .refl _) trivial
  | listWarps => exact iff_of_true (left ▸ .refl _) trivial
  | setWarp name =>
    have made := (Move.makeAll_singleton _ _).symm.trans done
    exact iff_of_false (fun h => Move.warps_createWarp_made made h.warps) id
  | deleteWarp name =>
    have made := (Move.makeAll_singleton _ _).symm.trans done
    exact iff_of_false (fun h => Move.warps_removeWarp_made made h.warps) id
  | startCreate binding =>
    rw [left]
    exact ⟨fun h => h.mode.symm, fun h => ⟨rfl, rfl, rfl, h.symm, rfl⟩⟩
  | startRemove =>
    rw [left]
    exact ⟨fun h => h.mode.symm, fun h => ⟨rfl, rfl, rfl, h.symm, rfl⟩⟩
  | cancel =>
    have busy : p.scene.actor.mode ≠ .idle := by
      intro idle
      simp [Action.checkState, idle] at checked
    rw [left]
    exact iff_of_false (fun h => busy h.mode.symm) id
  | create mob binding =>
    have free : (p.scene.world.binding? mob).isSome = false := by
      simp only [Action.checkState] at checked
      split at checked
      next => cases checked
      next free => exact Bool.eq_false_iff.2 free
    have bound : q.scene.world.bindings = p.scene.world.bindings.insert mob binding := by
      rw [left]
      cases binding with
      | command name line => rfl
      | warp name =>
        have same := Move.bindings_label mob name p.scene
        show ((Move.label mob name).effect p.scene).world.bindings.insert mob (.warp name) = _
        rw [same]
    have traced : ¬ p.scene.Untouched q.scene := fun h =>
      Table.insert_ne_self free binding (bound.symm.trans h.bindings)
    refine iff_of_false traced ?_
    cases binding with
    | command name line => exact id
    | warp name =>
      rintro ⟨error, unrendered⟩
      simp [deeds, Move.makeAll_cons, Move.make, unrendered] at done
  | remove mob =>
    have bound : (p.scene.world.binding? mob).isSome = true := by
      simp only [Action.checkState] at checked
      split at checked
      next bound => exact bound
      next => cases checked
    rw [left]
    exact iff_of_false (fun h => Table.erase_ne_self bound h.bindings) id
  | reload =>
    have made := (Move.makeAll_singleton _ _).symm.trans done
    simp only [Move.make] at made
    split at made
    next config read =>
      cases made
      constructor
      · intro h
        exact ⟨config, read, h.messages⟩
      · rintro ⟨config', read', same⟩
        rw [read] at read'
        cases read'
        exact ⟨rfl, rfl, rfl, rfl, same⟩
    next => cases made

/-- **What a missing message leaves behind.** If running an action fails because a message cannot
be rendered, then the world, the actor's mode and the messages in force are as before just when
the action leaves no trace in the scene. -/
theorem Scene.untouched_iff_traceless {scene : Scene} {hooks : List Hook} {action : Action}
    {error : MessageError} (failed : (scene.run hooks action).result = .error (.message error)) :
    scene.Untouched (scene.run hooks action).progress.scene ↔ action.Traceless scene := by
  have course := scene.run_course hooks action
  generalize scene.run hooks action = turn at course failed ⊢
  cases course with
  | unprepared checked same =>
    cases failed
    obtain ⟨name, line, rfl⟩ := Action.prepare_message checked
    rw [same]
    exact iff_of_true (.refl scene) trivial
  | vetoed => cases failed
  | completed => cases failed
  | @failed pending start progress _ checked _ same _ made =>
    cases failed
    obtain ⟨-, valid, command, -, rfl⟩ := Action.checks_of_prepare checked
    obtain ⟨words, moves, quiet⟩ := Pending.moves_eq ⟨scene.actor.name, action, command⟩ scene.world
    rw [← same] at valid ⊢
    rw [moves, Move.makeAll_append] at made
    split at made
    next told done =>
      have silent := Move.scene_makeAll_words quiet told
      rw [made] at silent
      rw [silent]
      exact Pending.untouched_deeds_iff valid done
    next failure undone =>
      cases made
      obtain ⟨unchanged, traceless⟩ := Pending.deeds_message undone
      rw [unchanged]
      exact iff_of_true (.refl _) traceless

/-- An actor who may do everything, in a world without warps or words. -/
def Scene.speechless : Scene where
  actor := { name := "Ada", holds := fun _ => true }
  world := { rules := { configuration := .error .homeNotFound } }
  messages := {}

theorem Scene.speechless_traces :
    ¬ speechless.Untouched (speechless.run [] (.setWarp ⟨"spawn"⟩)).progress.scene ∧
      speechless.Untouched (speechless.run [] (.create ⟨7⟩ (.warp ⟨"spawn"⟩))).progress.scene := by
  have unsaid : (speechless.run [] (.setWarp ⟨"spawn"⟩)).result =
      .error (.message (.unknownKey ⟨"warp-create-success"⟩)) := rfl
  have unlabelled : (speechless.run [] (.create ⟨7⟩ (.warp ⟨"spawn"⟩))).result =
      .error (.message (.unknownKey ⟨"mob-name-text"⟩)) := rfl
  constructor
  · intro same
    exact (untouched_iff_traceless unsaid).1 same
  · exact (untouched_iff_traceless unlabelled).2 ⟨_, rfl⟩

/-- A warp is created though the actor cannot be told. -/
theorem Scene.not_untouched_of_message :
    ¬ ∀ (scene : Scene) (hooks : List Hook) (action : Action) (error : MessageError),
      (scene.run hooks action).result = .error (.message error) →
        scene.Untouched (scene.run hooks action).progress.scene := by
  intro claim
  have same := (claim speechless [] (.setWarp ⟨"spawn"⟩) _ rfl).warps
  have names : [(⟨"spawn"⟩ : WarpName)] = [] := congrArg Table.keys same
  cases names

end InteractiveMobs
