import InteractiveMobs.Dispatch.Run

/-!
# The course of an action

`Move.effect` is what a move makes of the scene, and `Refused` why the host turns a request
down. A move that fails leaves the scene alone (`make_failed`): either the host refused the one
request it made, or a message could not be rendered. A list of moves does what the moves before
the first failure do.

The moves of an action are its deeds, which change the scene or ask the host for something, and
then words, which do neither (`moves_eq`). Before them come the checks, one after the other
(`prepare_eq`). `Scene.Course` lists the four ways in which running an action goes, and
`Scene.run_keeps` is the induction over its moves.
-/

namespace InteractiveMobs
set_option autoImplicit false

/-- The host turns a request down, and the action fails for it. -/
inductive Refused (scene : Scene) : Call → Failure → Prop where
  | command {line : String} (h : scene.actor.performs line = false) :
    Refused scene (.command line) (.commandFailed line)
  | teleport {name : WarpName} (h : scene.actor.reaches name = false) :
    Refused scene (.teleport name) (.teleportFailed name)
  | setWarp {name : WarpName} {owner : String} (h : scene.world.createWarp name owner = none) :
    Refused scene (.setWarp name owner) (.warpExists name)
  | removeWarp {name : WarpName} (h : scene.world.removeWarp name = none) :
    Refused scene (.removeWarp name) (.warpNotFound name)
  | loadMessages {error : CatalogError} (h : scene.world.rules.configuration = .error error) :
    Refused scene .loadMessages (.reloadFailed error.message)

namespace Move

/-- What a move makes of the scene; nothing if it cannot be made. -/
def effect (move : Move) (scene : Scene) : Scene :=
  match move with
  | createWarp name owner =>
    { scene with world := (scene.world.createWarp name owner).getD scene.world }
  | removeWarp name => { scene with world := (scene.world.removeWarp name).getD scene.world }
  | enter mode => { scene with actor := { scene.actor with mode } }
  | bind mob binding => { scene with world := scene.world.bind mob binding }
  | unbind mob => { scene with world := scene.world.unbind mob }
  | label mob name =>
    match scene.messages.render ⟨"mob-name-text"⟩ [name.text] with
    | .ok text => { scene with world := scene.world.setLabel mob (some text) }
    | .error _ => scene
  | clearLabel mob => { scene with world := scene.world.setLabel mob none }
  | reload =>
    match scene.world.rules.configuration with
    | .ok config => { scene with messages := .ofConfig config }
    | .error _ => scene
  | perform _ | teleport _ | tell _ _ | say _ | note _ => scene

/-- Whether the host may refuse what the move asks of it. -/
def isRefusable : Move → Bool
  | perform _ | teleport _ | createWarp _ _ | removeWarp _ | reload => true
  | _ => false

/-- Whether the move renders a catalog message. -/
def isRendering : Move → Bool
  | label _ _ | tell _ _ => true
  | _ => false

/-- Whether the move only tells the actor or the log something. -/
def isWord : Move → Bool
  | tell _ _ | say _ | note _ => true
  | _ => false

theorem effect_word {move : Move} (h : move.isWord = true) (scene : Scene) :
    move.effect scene = scene := by
  cases move <;> first | rfl | cases h

theorem scene_make (move : Move) (progress : Progress) :
    (move.make progress).1.scene = move.effect progress.scene := by
  cases move <;> simp only [make, effect]
  case perform => split <;> rfl
  case teleport => split <;> rfl
  case createWarp => split <;> simp_all [Progress.withWorld, Progress.call]
  case removeWarp => split <;> simp_all [Progress.withWorld, Progress.call, Progress.log]
  case enter => rfl
  case bind => rfl
  case unbind => rfl
  case label => split <;> simp_all [Progress.withWorld, Progress.call, Progress.log]
  case clearLabel => rfl
  case reload => split <;> simp_all [Progress.call, Progress.log]
  case tell => split <;> rfl
  case say => rfl
  case note => rfl

/-- A move that fails changes nothing. Either the host refused the one request it made, or a
message could not be rendered and no request was made. -/
theorem make_failed {move : Move} {p q : Progress} {failure : Failure}
    (h : move.make p = (q, some failure)) :
    q.scene = p.scene ∧
      ((move.isRefusable ∧ ∃ request, Refused p.scene request failure ∧
          q.calls = p.calls ++ [request]) ∨
        (move.isRendering ∧ (∃ error, failure = .message error) ∧ q.calls = p.calls)) := by
  cases move <;> simp only [make] at h
  case perform line =>
    split at h
    next => cases h
    next refused =>
      cases h
      exact ⟨rfl, .inl ⟨rfl, _, .command (by simpa using refused), rfl⟩⟩
  case teleport name =>
    split at h
    next => cases h
    next refused =>
      cases h
      exact ⟨rfl, .inl ⟨rfl, _, .teleport (by simpa using refused), rfl⟩⟩
  case createWarp name owner =>
    split at h
    next => cases h
    next refused =>
      cases h
      exact ⟨rfl, .inl ⟨rfl, _, .setWarp refused, rfl⟩⟩
  case removeWarp name =>
    split at h
    next => cases h
    next refused =>
      cases h
      exact ⟨rfl, .inl ⟨rfl, _, .removeWarp refused, rfl⟩⟩
  case reload =>
    split at h
    next => cases h
    next refused =>
      cases h
      exact ⟨rfl, .inl ⟨rfl, _, .loadMessages refused, rfl⟩⟩
  case label mob name =>
    split at h
    next => cases h
    next =>
      cases h
      exact ⟨rfl, .inr ⟨rfl, ⟨_, rfl⟩, rfl⟩⟩
  case tell key args =>
    split at h
    next => cases h
    next =>
      cases h
      exact ⟨rfl, .inr ⟨rfl, ⟨_, rfl⟩, rfl⟩⟩
  all_goals cases h

/-! ## Lists of moves -/

theorem makeAll_cons (move : Move) (rest : List Move) (p : Progress) :
    makeAll (move :: rest) p =
      match move.make p with
      | (q, none) => makeAll rest q
      | (q, some failure) => (q, some failure) := rfl

theorem makeAll_singleton (move : Move) (p : Progress) : makeAll [move] p = move.make p := by
  rw [makeAll_cons]
  split
  next q made => rw [made, makeAll]
  next q failure failed => rw [failed]

theorem makeAll_append (first rest : List Move) (p : Progress) :
    makeAll (first ++ rest) p =
      match makeAll first p with
      | (q, none) => makeAll rest q
      | (q, some failure) => (q, some failure) := by
  induction first generalizing p with
  | nil => rfl
  | cons move first ih =>
    rw [List.cons_append, makeAll_cons, makeAll_cons]
    split
    next q _ => exact ih q
    next => rfl

/-- What every move keeps is kept by a list of them, also if one of them fails. -/
theorem makeAll_keeps (so : Progress → Prop) {moves : List Move}
    (kept : ∀ move ∈ moves, ∀ p, so p → so (move.make p).1) {p : Progress} (start : so p) :
    so (makeAll moves p).1 := by
  induction moves generalizing p with
  | nil => exact start
  | cons move rest ih =>
    have here := kept move List.mem_cons_self p start
    rw [makeAll_cons]
    split
    next q made =>
      rw [made] at here
      exact ih (fun other mem => kept other (List.mem_cons_of_mem _ mem)) here
    next q failure failed =>
      rw [failed] at here
      exact here

/-- A list of moves that fails does so in one of them. -/
theorem exists_of_makeAll_failed {moves : List Move} {p q : Progress} {failure : Failure}
    (h : makeAll moves p = (q, some failure)) :
    ∃ move ∈ moves, ∃ before, move.make before = (q, some failure) := by
  induction moves generalizing p with
  | nil => cases h
  | cons move rest ih =>
    rw [makeAll_cons] at h
    split at h
    next p' _ =>
      obtain ⟨found, mem, before, failed⟩ := ih h
      exact ⟨found, List.mem_cons_of_mem _ mem, before, failed⟩
    next p' failure' failed =>
      cases h
      exact ⟨move, List.mem_cons_self, p, failed⟩

/-- Moves that are all made leave the scene that their effects lead to. -/
theorem scene_of_makeAll_done {moves : List Move} {p q : Progress}
    (h : makeAll moves p = (q, none)) :
    q.scene = moves.foldl (fun scene move => move.effect scene) p.scene := by
  induction moves generalizing p with
  | nil =>
    cases h
    rfl
  | cons move rest ih =>
    rw [makeAll_cons] at h
    split at h
    next p' made => rw [ih h, List.foldl_cons, ← scene_make, made]
    next => cases h

theorem scene_makeAll_words {moves : List Move} (words : ∀ move ∈ moves, move.isWord = true)
    (p : Progress) : (makeAll moves p).1.scene = p.scene :=
  makeAll_keeps (·.scene = p.scene) (fun move mem q same => by
    rw [scene_make, effect_word (words move mem), same]) rfl

end Move

namespace Pending

/-- The moves by which a pending action does what it is for. -/
def deeds (pending : Pending) : List Move :=
  match pending.action with
  | .runCommand _ _ => [.perform (pending.command.getD "")]
  | .warp name => [.teleport name]
  | .setWarp name => [.createWarp name pending.actor]
  | .deleteWarp name => [.removeWarp name]
  | .listWarps => []
  | .startCreate binding => [.enter (.creating binding)]
  | .startRemove => [.enter .removing]
  | .cancel => [.enter .idle]
  | .create mob (.warp name) => [.label mob name, .bind mob (.warp name)]
  | .create mob (.command name line) => [.bind mob (.command name line)]
  | .remove mob => [.unbind mob, .clearLabel mob]
  | .reload => [.reload]

/-- The moves of an action are its deeds, and words about them. -/
theorem moves_eq (pending : Pending) (world : World) :
    ∃ words, pending.moves world = pending.deeds ++ words ∧
      ∀ move ∈ words, move.isWord = true := by
  unfold moves deeds
  cases pending.action
  case create mob binding =>
    cases binding <;> exact ⟨_, rfl, by simp [Move.isWord]⟩
  case listWarps =>
    refine ⟨_, rfl, ?_⟩
    split <;> simp [Move.isWord]
  all_goals exact ⟨_, rfl, by simp [Move.isWord]⟩

theorem mem_deeds {pending : Pending} {world : World} {move : Move}
    (h : move ∈ pending.moves world) (deed : move.isWord = false) : move ∈ pending.deeds := by
  obtain ⟨words, moves, quiet⟩ := pending.moves_eq world
  rw [moves, List.mem_append] at h
  rcases h with there | word
  · exact there
  · rw [quiet move word] at deed
    cases deed

/-- Only the first move of an action can be refused. -/
theorem not_refusable_of_mem_tail (pending : Pending) (world : World) :
    ∀ move ∈ (pending.moves world).tail, move.isRefusable = false := by
  unfold moves
  cases pending.action
  case create mob binding => cases binding <;> simp [Move.isRefusable]
  case listWarps =>
    dsimp only
    split <;> simp [Move.isRefusable]
  all_goals simp [Move.isRefusable]

end Pending

/-! ## Checks -/

namespace Action

/-- Checking an action goes on from check to check. -/
theorem prepare_eq (action : Action) (actor : Actor) (world : World) :
    action.prepare actor world =
      match action.checkActor actor with
      | .error failure => .error failure
      | .ok () =>
        match action.checkState actor world with
        | .error failure => .error failure
        | .ok () =>
          match action.renderCommand actor with
          | .error failure => .error failure
          | .ok command => .ok { actor := actor.name, action, command } := by
  simp only [prepare, bind, Except.bind, pure, Except.pure]
  cases action.checkActor actor <;> cases action.checkState actor world <;>
    cases action.renderCommand actor <;> rfl

variable {action : Action} {actor : Actor} {world : World}

/-- An action that is prepared has passed every check. -/
theorem checks_of_prepare {pending : Pending} (h : action.prepare actor world = .ok pending) :
    action.checkActor actor = .ok () ∧ action.checkState actor world = .ok () ∧
      ∃ command, action.renderCommand actor = .ok command ∧
        pending = { actor := actor.name, action, command } := by
  rw [prepare_eq] at h
  split at h
  next => cases h
  next granted =>
    split at h
    next => cases h
    next possible =>
      split at h
      next => cases h
      next command rendered =>
        cases h
        exact ⟨granted, possible, command, rendered, rfl⟩

/-- An action that is not prepared has failed one of the checks. -/
theorem failed_of_prepare {failure : Failure} (h : action.prepare actor world = .error failure) :
    action.checkActor actor = .error failure ∨ action.checkState actor world = .error failure ∨
      action.renderCommand actor = .error failure := by
  rw [prepare_eq] at h
  split at h
  next refused =>
    cases h
    exact .inl refused
  next =>
    split at h
    next refused =>
      cases h
      exact .inr (.inl refused)
    next =>
      split at h
      next refused =>
        cases h
        exact .inr (.inr refused)
      next => cases h

end Action

namespace Scene

/-- How running an action goes: a check fails, a hook vetoes, or moves are made, all of them or
up to one that fails. -/
inductive Course (scene : Scene) (hooks : List Hook) (action : Action) : Turn → Prop where
  | unprepared {failure : Failure} {progress : Progress}
    (checked : action.prepare scene.actor scene.world = .error failure)
    (same : progress.scene = scene) (silent : progress.calls = []) :
    Course scene hooks action ⟨.error failure, progress⟩
  | vetoed {pending : Pending} {progress : Progress}
    (checked : action.prepare scene.actor scene.world = .ok pending)
    (veto : (pending.consult 0 hooks).2 = false) (same : progress.scene = scene)
    (asked : progress.calls = (pending.consult 0 hooks).1) :
    Course scene hooks action ⟨.ok .vetoed, progress⟩
  | completed {pending : Pending} {start progress : Progress}
    (checked : action.prepare scene.actor scene.world = .ok pending)
    (allowed : (pending.consult 0 hooks).2 = true) (same : start.scene = scene)
    (asked : start.calls = (pending.consult 0 hooks).1)
    (made : Move.makeAll (pending.moves scene.world) start = (progress, none)) :
    Course scene hooks action ⟨.ok .completed, progress⟩
  | failed {pending : Pending} {start progress : Progress} {failure : Failure}
    (checked : action.prepare scene.actor scene.world = .ok pending)
    (allowed : (pending.consult 0 hooks).2 = true) (same : start.scene = scene)
    (asked : start.calls = (pending.consult 0 hooks).1)
    (made : Move.makeAll (pending.moves scene.world) start = (progress, some failure)) :
    Course scene hooks action ⟨.error failure, progress⟩

theorem run_course (scene : Scene) (hooks : List Hook) (action : Action) :
    Course scene hooks action (scene.run hooks action) := by
  unfold run
  dsimp only
  split
  next failure checked => exact .unprepared checked rfl rfl
  next pending checked =>
    split
    next allowed =>
      split
      next progress made => exact .completed checked allowed rfl rfl made
      next progress failure made => exact .failed checked allowed rfl rfl made
    next veto => exact .vetoed checked (by simpa using veto) rfl rfl

/-- What every move of an action keeps of a scene is kept by running it. -/
theorem run_keeps (so : Scene → Prop) {scene : Scene} {hooks : List Hook} {action : Action}
    (kept : ∀ pending : Pending, pending.action = action → ∀ move ∈ pending.moves scene.world,
      ∀ other, so other → so (move.effect other)) (start : so scene) :
    so (scene.run hooks action).progress.scene := by
  have moved {pending : Pending} {first : Progress}
      (checked : action.prepare scene.actor scene.world = .ok pending)
      (same : first.scene = scene) :
      so (Move.makeAll (pending.moves scene.world) first).1.scene := by
    obtain ⟨-, -, command, -, rfl⟩ := Action.checks_of_prepare checked
    refine Move.makeAll_keeps (fun p => so p.scene) (fun move mem p here => ?_) (same ▸ start)
    rw [Move.scene_make]
    exact kept _ rfl move mem p.scene here
  have course := scene.run_course hooks action
  generalize scene.run hooks action = turn at course ⊢
  cases course with
  | unprepared _ same => exact same ▸ start
  | vetoed _ _ same => exact same ▸ start
  | completed checked _ same _ made => simpa only [made] using moved checked same
  | failed checked _ same _ made => simpa only [made] using moved checked same

end Scene
end InteractiveMobs
