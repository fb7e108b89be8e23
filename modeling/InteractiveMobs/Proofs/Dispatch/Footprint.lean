import InteractiveMobs.Proofs.Dispatch.Records

/-!
# Footprints

The records of the world are about its sites, which are warps and mobs. `Request.sitesFor` are those
that a request is about: the mob it names, and what the action it stands for mentions. Two worlds
agree on sites if they have the same records of them.

A request is answered the same way in scenes that agree on its sites, and leaves scenes that agree
on all they agreed on before (`Scene.answer_agree`); only a list of warps is about every warp at
once. Other sites it leaves alone (`Scene.Answer.frame`), and the messages too, unless they are
reloaded.
-/

namespace InteractiveMobs
set_option autoImplicit false

/-- What the world has records of. -/
inductive Site where
  | warp (name : WarpName)
  | mob (mob : MobId)
deriving DecidableEq, Repr

/-- The warp that a mob of the binding leads to. -/
def Binding.sites : Binding → List Site
  | command _ _ => []
  | warp name => [.warp name]

/-- The warps and mobs that an action mentions. -/
def Action.sites : Action → List Site
  | warp name | setWarp name | deleteWarp name => [.warp name]
  | startCreate binding => binding.sites
  | create mob binding => .mob mob :: binding.sites
  | remove mob => [.mob mob]
  | runCommand _ _ | listWarps | startRemove | cancel | reload => []

/-- The mob that a request names. -/
def Request.sites : Request → List Site
  | .interact mob => [.mob mob]
  | .run _ | .report _ => []

/-- What a request is about that stands for the action, if for any: the mob it names, and what the
action mentions. -/
def Request.sitesFor (request : Request) (action : Option Action) : List Site :=
  request.sites ++ action.elim [] Action.sites

/-! ## Worlds -/

namespace World

/-- Two worlds have the same records of certain sites, and their hosts the same rules. -/
structure AgreeOn (world other : World) (so : Site → Prop) : Prop where
  owner : ∀ name, so (.warp name) → world.owner? name = other.owner? name
  binding : ∀ mob, so (.mob mob) → world.binding? mob = other.binding? mob
  label : ∀ mob, so (.mob mob) → world.label? mob = other.label? mob
  rules : world.rules = other.rules

namespace AgreeOn

variable {world other third : World} {so so' : Site → Prop} {name : WarpName}

theorem refl (world : World) (so : Site → Prop) : world.AgreeOn world so :=
  ⟨fun _ _ => rfl, fun _ _ => rfl, fun _ _ => rfl, rfl⟩

theorem symm (h : world.AgreeOn other so) : other.AgreeOn world so :=
  ⟨fun name there => (h.owner name there).symm, fun mob there => (h.binding mob there).symm,
    fun mob there => (h.label mob there).symm, h.rules.symm⟩

theorem trans (h : world.AgreeOn other so) (h' : other.AgreeOn third so) :
    world.AgreeOn third so :=
  ⟨fun name there => (h.owner name there).trans (h'.owner name there),
    fun mob there => (h.binding mob there).trans (h'.binding mob there),
    fun mob there => (h.label mob there).trans (h'.label mob there), h.rules.trans h'.rules⟩

/-- Worlds that agree on every site are the same. -/
theorem eq_of_cover (h : world.AgreeOn other so) (h' : world.AgreeOn other so')
    (cover : ∀ site, so site ∨ so' site) : world = other := by
  have owners (name : WarpName) : world.owner? name = other.owner? name :=
    (cover (.warp name)).elim (h.owner name) (h'.owner name)
  have bindings (mob : MobId) : world.binding? mob = other.binding? mob :=
    (cover (.mob mob)).elim (h.binding mob) (h'.binding mob)
  have labels (mob : MobId) : world.label? mob = other.label? mob :=
    (cover (.mob mob)).elim (h.label mob) (h'.label mob)
  have rules := h.rules
  obtain ⟨_, _, _, _⟩ := world
  obtain ⟨_, _, _, _⟩ := other
  cases Table.ext_get? owners
  cases Table.ext_get? bindings
  cases Table.ext_get? labels
  cases rules
  rfl

theorem hasWarp (h : world.AgreeOn other so) (here : so (.warp name)) :
    world.hasWarp name = other.hasWarp name := congrArg Option.isSome (h.owner name here)

/-! Every operation keeps what two worlds agree on. Creating and removing a warp look at it. -/

theorem bind (h : world.AgreeOn other so) (mob : MobId) (binding : Binding) :
    (world.bind mob binding).AgreeOn (other.bind mob binding) so where
  owner := h.owner
  binding mob' there := by rw [binding?_bind, binding?_bind, h.binding mob' there]
  label := h.label
  rules := h.rules

theorem unbind (h : world.AgreeOn other so) (mob : MobId) :
    (world.unbind mob).AgreeOn (other.unbind mob) so where
  owner := h.owner
  binding mob' there := by rw [binding?_unbind, binding?_unbind, h.binding mob' there]
  label := h.label
  rules := h.rules

theorem setLabel (h : world.AgreeOn other so) (mob : MobId) (label : Option String) :
    (world.setLabel mob label).AgreeOn (other.setLabel mob label) so where
  owner name there := by rw [owner?_setLabel, owner?_setLabel, h.owner name there]
  binding mob' there := by rw [binding?_setLabel, binding?_setLabel, h.binding mob' there]
  label mob' there := by rw [label?_setLabel, label?_setLabel, h.label mob' there]
  rules := by rw [rules_setLabel, rules_setLabel, h.rules]

theorem createWarp (h : world.AgreeOn other so) (here : so (.warp name)) (owner : String) :
    Option.Rel (AgreeOn · · so) (world.createWarp name owner) (other.createWarp name owner) := by
  unfold World.createWarp
  rw [h.rules, h.hasWarp here]
  split
  · exact .none
  · refine .some ⟨fun name' there => ?_, h.binding, h.label, rfl⟩
    show (world.warps.insert name owner).get? name' = (other.warps.insert name owner).get? name'
    rw [Table.get?_insert, Table.get?_insert]
    split
    · rfl
    · exact h.owner name' there

theorem removeWarp (h : world.AgreeOn other so) (here : so (.warp name)) :
    Option.Rel (AgreeOn · · so) (world.removeWarp name) (other.removeWarp name) := by
  unfold World.removeWarp
  rw [h.rules, h.hasWarp here]
  split
  · exact .none
  · refine .some ⟨fun name' there => ?_, h.binding, h.label, rfl⟩
    show (world.warps.erase name).get? name' = (other.warps.erase name).get? name'
    rw [Table.get?_erase, Table.get?_erase]
    split
    · rfl
    · exact h.owner name' there

end AgreeOn

/-! What each operation leaves alone. -/

section Frame

variable (world : World) {so : Site → Prop} {name : WarpName} {mob : MobId}

theorem agreeOn_bind (away : ¬ so (.mob mob)) (binding : Binding) :
    world.AgreeOn (world.bind mob binding) so where
  owner _ _ := rfl
  binding other there := by
    rw [binding?_bind, if_neg]
    rintro rfl
    exact away there
  label _ _ := rfl
  rules := rfl

theorem agreeOn_unbind (away : ¬ so (.mob mob)) : world.AgreeOn (world.unbind mob) so where
  owner _ _ := rfl
  binding other there := by
    rw [binding?_unbind, if_neg]
    rintro rfl
    exact away there
  label _ _ := rfl
  rules := rfl

theorem agreeOn_setLabel (away : ¬ so (.mob mob)) (label : Option String) :
    world.AgreeOn (world.setLabel mob label) so where
  owner name _ := (owner?_setLabel world mob label name).symm
  binding other _ := (binding?_setLabel world mob other label).symm
  label other there := by
    rw [label?_setLabel, if_neg]
    rintro rfl
    exact away there
  rules := (rules_setLabel world mob label).symm

theorem agreeOn_createWarp (away : ¬ so (.warp name)) (owner : String) :
    world.AgreeOn ((world.createWarp name owner).getD world) so where
  owner other there := by
    cases created : world.createWarp name owner with
    | none => rfl
    | some after =>
      rw [Option.getD_some, owner?_of_createWarp created, if_neg]
      rintro rfl
      exact away there
  binding other _ := (binding?_createWarp world other name owner).symm
  label other _ := (label?_createWarp world other name owner).symm
  rules := (rules_createWarp world name owner).symm

theorem agreeOn_removeWarp (away : ¬ so (.warp name)) :
    world.AgreeOn ((world.removeWarp name).getD world) so where
  owner other there := by
    cases removed : world.removeWarp name with
    | none => rfl
    | some after =>
      rw [Option.getD_some, owner?_of_removeWarp removed, if_neg]
      rintro rfl
      exact away there
  binding other _ := (binding?_removeWarp world other name).symm
  label other _ := (label?_removeWarp world other name).symm
  rules := (rules_removeWarp world name).symm

end Frame
end World

/-! ## Scenes -/

namespace Scene

/-- Two scenes are of one actor and one set of messages, in worlds that agree on certain sites. -/
structure AgreeOn (scene other : Scene) (so : Site → Prop) : Prop where
  actor : scene.actor = other.actor
  world : scene.world.AgreeOn other.world so
  messages : scene.messages = other.messages

end Scene

/-- The same was done on the way to scenes that agree on certain sites. -/
structure Progress.AgreeOn (progress other : Progress) (so : Site → Prop) : Prop where
  scene : progress.scene.AgreeOn other.scene so
  calls : progress.calls = other.calls

/-- Two turns have the same result by the same calls, in scenes that agree on certain sites. -/
structure Turn.AgreeOn (turn other : Turn) (so : Site → Prop) : Prop where
  result : turn.result = other.result
  progress : turn.progress.AgreeOn other.progress so

namespace Move

/-- The site that a move is about, if it is about one. -/
def sites : Move → List Site
  | createWarp name _ | removeWarp name => [.warp name]
  | bind mob _ | unbind mob | label mob _ | clearLabel mob => [.mob mob]
  | perform _ | teleport _ | enter _ | reload | tell _ _ | say _ | note _ => []

/-- Words are about no site. -/
theorem isWord_of_mem_sites {move : Move} {site : Site} (h : site ∈ move.sites) :
    move.isWord = false := by
  cases move <;> first | rfl | cases h

variable {so : Site → Prop}

theorem effect_agree {move : Move} (within : ∀ site ∈ move.sites, so site) {scene other : Scene}
    (h : scene.AgreeOn other so) : (move.effect scene).AgreeOn (move.effect other) so := by
  obtain ⟨actor, world, messages⟩ := scene
  obtain ⟨actor', other, messages'⟩ := other
  obtain ⟨actors, worlds, same⟩ := h
  dsimp only at actors worlds same
  subst actors same
  cases move with
  | createWarp name owner =>
    have alike := worlds.createWarp (within _ List.mem_cons_self) owner
    dsimp only [effect]
    generalize world.createWarp name owner = made at alike ⊢
    generalize other.createWarp name owner = made' at alike ⊢
    cases alike with
    | none => exact ⟨rfl, worlds, rfl⟩
    | some made => exact ⟨rfl, made, rfl⟩
  | removeWarp name =>
    have alike := worlds.removeWarp (within _ List.mem_cons_self)
    dsimp only [effect]
    generalize world.removeWarp name = made at alike ⊢
    generalize other.removeWarp name = made' at alike ⊢
    cases alike with
    | none => exact ⟨rfl, worlds, rfl⟩
    | some made => exact ⟨rfl, made, rfl⟩
  | bind mob binding => exact ⟨rfl, worlds.bind mob binding, rfl⟩
  | unbind mob => exact ⟨rfl, worlds.unbind mob, rfl⟩
  | clearLabel mob => exact ⟨rfl, worlds.setLabel mob none, rfl⟩
  | label mob name =>
    dsimp only [effect]
    split
    next text _ => exact ⟨rfl, worlds.setLabel mob (some text), rfl⟩
    next => exact ⟨rfl, worlds, rfl⟩
  | reload =>
    dsimp only [effect]
    rw [worlds.rules]
    split <;> exact ⟨rfl, worlds, rfl⟩
  | _ => exact ⟨rfl, worlds, rfl⟩

theorem requests_agree (move : Move) {scene other : Scene} (h : scene.AgreeOn other so) :
    move.requests scene = move.requests other := by
  cases move <;> simp only [requests, h.messages]

/-- Only a reload changes the messages. -/
theorem messages_effect {move : Move} (h : move ≠ .reload) (scene : Scene) :
    (move.effect scene).messages = scene.messages := by
  cases move with
  | reload => exact absurd rfl h
  | label mob name =>
    dsimp only [effect]
    split <;> rfl
  | _ => rfl

/-- A move that is refused is refused where its site is the same. -/
theorem failure_agree {move : Move} (within : ∀ site ∈ move.sites, so site) {p q : Progress}
    (h : p.scene.AgreeOn q.scene so) : (move.make p).2 = (move.make q).2 := by
  cases move <;> simp only [make]
  case perform line =>
    rw [h.actor]
    split <;> rfl
  case teleport name =>
    rw [h.actor]
    split <;> rfl
  case createWarp name owner =>
    have alike := h.world.createWarp (within _ List.mem_cons_self) owner
    generalize p.scene.world.createWarp name owner = made at alike ⊢
    generalize q.scene.world.createWarp name owner = made' at alike ⊢
    cases alike <;> rfl
  case removeWarp name =>
    have alike := h.world.removeWarp (within _ List.mem_cons_self)
    generalize p.scene.world.removeWarp name = made at alike ⊢
    generalize q.scene.world.removeWarp name = made' at alike ⊢
    cases alike <;> rfl
  case label mob name =>
    rw [h.messages]
    split <;> rfl
  case tell key args =>
    rw [h.messages]
    split <;> rfl
  case reload =>
    rw [h.world.rules]
    split <;> rfl

/-- A move is made the same way where its site is the same. -/
theorem make_agree {move : Move} (within : ∀ site ∈ move.sites, so site) {p q : Progress}
    (h : p.AgreeOn q so) :
    (move.make p).1.AgreeOn (move.make q).1 so ∧ (move.make p).2 = (move.make q).2 := by
  refine ⟨⟨?_, ?_⟩, failure_agree within h.scene⟩
  · rw [scene_make, scene_make]
    exact effect_agree within h.scene
  · rw [calls_make, calls_make, h.calls, requests_agree move h.scene]

theorem makeAll_agree {moves : List Move}
    (within : ∀ move ∈ moves, ∀ site ∈ move.sites, so site) {p q : Progress}
    (h : p.AgreeOn q so) :
    (makeAll moves p).1.AgreeOn (makeAll moves q).1 so ∧
      (makeAll moves p).2 = (makeAll moves q).2 := by
  induction moves generalizing p q with
  | nil => exact ⟨h, rfl⟩
  | cons move rest ih =>
    obtain ⟨here, later⟩ := List.forall_mem_cons.1 within
    have made := make_agree here h
    rw [makeAll_cons, makeAll_cons]
    generalize move.make p = made₁ at made ⊢
    generalize move.make q = made₂ at made ⊢
    obtain ⟨p', failed⟩ := made₁
    obtain ⟨q', failed'⟩ := made₂
    obtain ⟨agree, same⟩ := made
    cases same
    cases failed with
    | none => exact ih later agree
    | some failure => exact ⟨agree, rfl⟩

end Move

namespace Pending

theorem sites_deeds (pending : Pending) :
    ∀ move ∈ pending.deeds, ∀ site ∈ move.sites, site ∈ pending.action.sites := by
  unfold deeds
  cases pending.action
  case create mob binding => cases binding <;> simp [Move.sites, Action.sites]
  all_goals simp [Move.sites, Action.sites]

/-- The moves of an action are about sites that it mentions. -/
theorem sites_moves (pending : Pending) (world : World) :
    ∀ move ∈ pending.moves world, ∀ site ∈ move.sites, site ∈ pending.action.sites := by
  intro move mem site about
  exact pending.sites_deeds move (mem_deeds mem (Move.isWord_of_mem_sites about)) site about

theorem reload_of_moves {pending : Pending} {world : World} (h : .reload ∈ pending.moves world) :
    pending.action = .reload := by
  have deed := mem_deeds h rfl
  obtain ⟨actor, action, command⟩ := pending
  cases action with
  | reload => rfl
  | create mob binding => cases binding <;> simp [deeds] at deed
  | _ => simp [deeds] at deed

/-- Only the moves that list the warps depend on the world. -/
theorem moves_congr {pending : Pending} (unlisted : pending.action ≠ .listWarps)
    (world other : World) : pending.moves world = pending.moves other := by
  obtain ⟨actor, action, command⟩ := pending
  cases action with
  | listWarps => exact absurd rfl unlisted
  | _ => rfl

end Pending

namespace Action

variable {so : Site → Prop} {action : Action} {scene other : Scene}

/-- An action meets the same checks where its sites are the same. -/
theorem checkState_agree (within : ∀ site ∈ action.sites, so site)
    (h : scene.AgreeOn other so) :
    action.checkState scene.actor scene.world = action.checkState other.actor other.world := by
  cases action with
  | warp name | deleteWarp name | setWarp name =>
    simp only [checkState, h.world.hasWarp (within _ List.mem_cons_self)]
  | startCreate binding =>
    cases binding with
    | warp name => simp only [checkState, h.world.hasWarp (within _ List.mem_cons_self)]
    | command => rfl
  | create mob | remove mob =>
    simp only [checkState, h.world.binding mob (within _ List.mem_cons_self)]
  | cancel => simp only [checkState, h.actor]
  | _ => rfl

theorem prepare_agree (within : ∀ site ∈ action.sites, so site) (h : scene.AgreeOn other so) :
    action.prepare scene.actor scene.world = action.prepare other.actor other.world := by
  rw [prepare_eq, prepare_eq, checkState_agree within h, h.actor]

end Action

namespace Scene

variable {so : Site → Prop} {scene other : Scene} {action : Action} {request : Request}

/-- An action that is checked the same way and carried out by the same moves is run the same way,
where the sites of its moves are the same. -/
theorem run_agree_of_moves
    (checks : action.prepare scene.actor scene.world = action.prepare other.actor other.world)
    (moves : ∀ pending : Pending, pending.action = action →
      pending.moves scene.world = pending.moves other.world ∧
        ∀ move ∈ pending.moves scene.world, ∀ site ∈ move.sites, so site)
    (h : scene.AgreeOn other so) (hooks : List Hook) :
    (scene.run hooks action).AgreeOn (other.run hooks action) so := by
  have alike {pending : Pending} (same : pending.action = action) {p q p' q' : Progress}
      {failed failed' : Option Failure}
      (made : Move.makeAll (pending.moves scene.world) p = (p', failed))
      (made' : Move.makeAll (pending.moves other.world) q = (q', failed'))
      (start : p.AgreeOn q so) :
      p'.AgreeOn q' so ∧ failed = failed' := by
    obtain ⟨equal, within⟩ := moves pending same
    have agree := Move.makeAll_agree within start
    rwa [made, equal, made'] at agree
  unfold run
  rw [checks, h.actor]
  dsimp only
  cases checked : action.prepare other.actor other.world with
  | error failure => exact ⟨rfl, h, rfl⟩
  | ok pending =>
    obtain ⟨-, -, command, -, rfl⟩ := Action.checks_of_prepare checked
    dsimp only
    split
    next =>
      -- both lists of moves are carried out to the end, or neither
      split <;> split
      next p' made _ q' made' => exact ⟨rfl, (alike rfl made made' ⟨h, rfl⟩).1⟩
      next p' made _ q' failure made' => cases (alike rfl made made' ⟨h, rfl⟩).2
      next p' failure made _ q' made' => cases (alike rfl made made' ⟨h, rfl⟩).2
      next p' failure made _ q' failure' made' =>
        obtain ⟨agree, same⟩ := alike rfl made made' ⟨h, rfl⟩
        cases same
        exact ⟨rfl, agree⟩
    next => exact ⟨rfl, h, rfl⟩

/-- An action is run the same way where its sites are the same, unless it lists the warps. -/
theorem run_agree (unlisted : action ≠ .listWarps) (within : ∀ site ∈ action.sites, so site)
    (h : scene.AgreeOn other so) (hooks : List Hook) :
    (scene.run hooks action).AgreeOn (other.run hooks action) so := by
  refine run_agree_of_moves (Action.prepare_agree within h) (fun pending same => ?_) h hooks
  subst same
  exact ⟨Pending.moves_congr unlisted scene.world other.world, fun move mem site about =>
    within site (pending.sites_moves scene.world move mem site about)⟩

/-- A failure is told in the same words by the same messages. -/
theorem tellFailure_agree {p q : Progress} (h : p.AgreeOn q so) (failure : Failure) :
    (tellFailure p failure).AgreeOn (tellFailure q failure) so := by
  unfold tellFailure
  split
  next => exact h
  next key args _ =>
    dsimp only
    rw [h.scene.messages]
    split
    next text _ => exact ⟨h.scene, congrArg (· ++ [Call.send text]) h.calls⟩
    next => exact ⟨h.scene, h.calls⟩

theorem setMode_agree {p q : Progress} (h : p.AgreeOn q so) (mode : Mode) :
    (p.setMode mode).AgreeOn (q.setMode mode) so where
  scene := ⟨congrArg (fun actor => { actor with mode }) h.scene.actor, h.scene.world,
    h.scene.messages⟩
  calls := congrArg (· ++ [Call.setMode mode]) h.calls

theorem report_agree (unlisted : action ≠ .listWarps) (within : ∀ site ∈ action.sites, so site)
    (h : scene.AgreeOn other so) (hooks : List Hook) :
    (scene.report hooks action).AgreeOn (other.report hooks action) so := by
  have ran := run_agree unlisted within h hooks
  unfold report
  dsimp only
  rw [ran.result]
  split
  next failure _ => exact ⟨rfl, tellFailure_agree ran.progress failure⟩
  next => exact ran

/-- A request stands for the same action where the mob it names is the same. -/
theorem actionFor_agree (within : ∀ site ∈ request.sites, so site)
    (h : scene.AgreeOn other so) : scene.actionFor request = other.actionFor request := by
  cases request with
  | run | report => rfl
  | interact mob =>
    simp only [actionFor, actionOn, h.actor, h.world.binding mob (within _ List.mem_cons_self)]

/-- A request is answered the same way where its sites are the same, unless the warps are
listed. -/
theorem answer_agree (unlisted : scene.actionFor request ≠ some .listWarps)
    (within : ∀ site ∈ request.sitesFor (scene.actionFor request), so site)
    (h : scene.AgreeOn other so) (hooks : List Hook) :
    Option.Rel (Turn.AgreeOn · · so) (scene.answer hooks request) (other.answer hooks request) := by
  obtain ⟨named, mentioned⟩ := List.forall_mem_append.1 within
  have stands := actionFor_agree named h
  cases request with
  | run action => exact .some (run_agree (mt (congrArg some) unlisted) mentioned h hooks)
  | report action => exact .some (report_agree (mt (congrArg some) unlisted) mentioned h hooks)
  | interact mob =>
    simp only [answer, interact]
    simp only [actionFor] at stands unlisted mentioned
    rw [← stands]
    cases found : scene.actionOn mob with
    | none => exact .none
    | some action =>
      rw [found] at unlisted mentioned
      have ran := run_agree (mt (congrArg some) unlisted) mentioned h hooks
      refine .some ?_
      dsimp only
      rw [ran.result]
      split
      next =>
        split
        next => exact ⟨rfl, setMode_agree ran.progress .idle⟩
        next => exact ran
      next => exact ran

/-! ## What is left alone -/

theorem Entry.frame {calls : List Call} {world : World} (h : scene.Entry action calls world)
    (away : ∀ site ∈ action.sites, ¬ so site) : scene.world.AgreeOn world so := by
  cases h with
  | nothing => exact .refl scene.world so
  | setWarp => exact scene.world.agreeOn_createWarp (away _ List.mem_cons_self) _
  | deleteWarp => exact scene.world.agreeOn_removeWarp (away _ List.mem_cons_self)
  | lead =>
    have there := away _ List.mem_cons_self
    exact (scene.world.agreeOn_setLabel there _).trans (World.agreeOn_bind _ there _)
  | serve => exact scene.world.agreeOn_bind (away _ List.mem_cons_self) _
  | remove =>
    have there := away _ List.mem_cons_self
    exact (scene.world.agreeOn_unbind there).trans (World.agreeOn_setLabel _ there _)

/-- Only a reload changes the messages. -/
theorem messages_run (unloaded : action ≠ .reload) (hooks : List Hook) :
    (scene.run hooks action).progress.scene.messages = scene.messages := by
  refine run_keeps (·.messages = scene.messages) (fun pending same move mem other kept => ?_) rfl
  rw [Move.messages_effect _ other, kept]
  rintro rfl
  exact unloaded (same.symm.trans (Pending.reload_of_moves mem))

/-- An answer changes nothing about sites that its action does not mention. -/
theorem Answer.frame {hooks : List Hook} {turn : Turn} (h : scene.Answer hooks action turn)
    (away : ∀ site ∈ action.sites, ¬ so site) :
    scene.world.AgreeOn turn.progress.scene.world so := h.entry.frame away

end Scene
end InteractiveMobs
