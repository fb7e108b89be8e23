import InteractiveMobs.Proofs.Dispatch.Authorization
import InteractiveMobs.Proofs.Dispatch.Refusal

/-!
# The records of the world

The world keeps three records: its warps, the bindings of its mobs, and their labels.
`Scene.Entry` lists all that running an action can ask of them, the checks it passed on the way,
and the world it leaves; `answer_entry` says that every answer to a request is one of these.
What holds of the records over a whole session follows from it case by case.
-/

namespace InteractiveMobs
set_option autoImplicit false

/-- Whether a call is about the records of the world. -/
def Call.isEntry : Call → Bool
  | .setWarp _ _ | .removeWarp _ | .bind _ _ | .unbind _ | .setMobName _ _ => true
  | .hook _ _ | .send _ | .command _ | .teleport _ | .setMode _ | .loadMessages => false

namespace Move

/-- The calls that a move makes. -/
def requests (move : Move) (scene : Scene) : List Call :=
  match move with
  | perform line => [.command line]
  | teleport name => [.teleport name]
  | createWarp name owner => [.setWarp name owner]
  | removeWarp name => [.removeWarp name]
  | enter mode => [.setMode mode]
  | bind mob binding => [.bind mob binding]
  | unbind mob => [.unbind mob]
  | label mob name =>
    match scene.messages.render ⟨"mob-name-text"⟩ [name.text] with
    | .ok text => [.setMobName mob (some text)]
    | .error _ => []
  | clearLabel mob => [.setMobName mob none]
  | reload => [.loadMessages]
  | tell key args =>
    match scene.messages.render key args with
    | .ok text => [.send text]
    | .error _ => []
  | say text => [.send text]
  | note _ => []

theorem calls_make (move : Move) (p : Progress) :
    (move.make p).1.calls = p.calls ++ move.requests p.scene := by
  cases move <;> simp only [make, requests]
  case perform => split <;> rfl
  case teleport => split <;> rfl
  case createWarp => split <;> rfl
  case removeWarp => split <;> rfl
  case reload => split <;> rfl
  case label => split <;> simp_all [Progress.withWorld, Progress.call, Progress.log]
  case tell => split <;> simp_all [Progress.send, Progress.call, Progress.log]
  case note => simp [Progress.log]
  all_goals rfl

theorem makeAll_pair {first second : Move} {p : Progress} (made : (first.make p).2 = none) :
    makeAll [first, second] p = second.make (first.make p).1 := by
  rw [makeAll_cons]
  split
  next q done => rw [done, makeAll_singleton]
  next q failure failed =>
    rw [failed] at made
    cases made

/-- Words are no entries. -/
theorem entries_words {words : List Move} (quiet : ∀ move ∈ words, move.isWord = true)
    (p : Progress) :
    (makeAll words p).1.calls.filter Call.isEntry = p.calls.filter Call.isEntry := by
  refine makeAll_keeps (·.calls.filter Call.isEntry = p.calls.filter Call.isEntry)
    (fun move mem q same => ?_) rfl
  have word := quiet move mem
  have unentered : (move.requests q.scene).filter Call.isEntry = [] := by
    cases move with
    | tell key args =>
      simp only [requests]
      split <;> rfl
    | say | note => rfl
    | _ => cases word
  rw [calls_make, List.filter_append, unentered, List.append_nil, same]

end Move

namespace Scene

/-- What running an action asks of the records, and the world that it leaves. -/
inductive Entry (scene : Scene) : Action → List Call → World → Prop where
  | nothing {action : Action} : Entry scene action [] scene.world
  | setWarp {name : WarpName} (free : scene.world.hasWarp name = false) :
    Entry scene (.setWarp name) [.setWarp name scene.actor.name]
      ((scene.world.createWarp name scene.actor.name).getD scene.world)
  | deleteWarp {name : WarpName} (there : scene.world.hasWarp name = true) :
    Entry scene (.deleteWarp name) [.removeWarp name]
      ((scene.world.removeWarp name).getD scene.world)
  | lead {mob : MobId} {name : WarpName} {text : String}
    (free : scene.world.binding? mob = none)
    (labelled : scene.messages.render ⟨"mob-name-text"⟩ [name.text] = .ok text) :
    Entry scene (.create mob (.warp name)) [.setMobName mob (some text), .bind mob (.warp name)]
      ((scene.world.setLabel mob (some text)).bind mob (.warp name))
  | serve {mob : MobId} {name line : String} (free : scene.world.binding? mob = none) :
    Entry scene (.create mob (.command name line)) [.bind mob (.command name line)]
      (scene.world.bind mob (.command name line))
  | remove {mob : MobId} (bound : scene.world.binding? mob ≠ none) :
    Entry scene (.remove mob) [.unbind mob, .setMobName mob none]
      ((scene.world.unbind mob).setLabel mob none)

end Scene

/-- The deeds of an action are entered. -/
theorem Pending.entry_deeds {pending : Pending} {p : Progress}
    (named : pending.actor = p.scene.actor.name) (ready : pending.action.Ready p.scene) :
    ∃ asked, (Move.makeAll pending.deeds p).1.calls = p.calls ++ asked ∧
      p.scene.Entry pending.action (asked.filter Call.isEntry)
        (Move.makeAll pending.deeds p).1.scene.world := by
  obtain ⟨actor, action, command⟩ := pending
  dsimp only at named ready ⊢
  subst named
  rcases action with _ | _ | name | name | _ | _ | _ | _ | ⟨mob, ⟨word, line⟩ | name⟩ | mob | _
  case listWarps => exact ⟨[], by simp [deeds, Move.makeAll], .nothing⟩
  case create.warp =>
    cases rendered : p.scene.messages.render ⟨"mob-name-text"⟩ [name.text] with
    | ok text =>
      have labelled : ((Move.label mob name).make p).2 = none := by simp [Move.make, rendered]
      have asked : (Move.label mob name).requests p.scene = [.setMobName mob (some text)] := by
        simp [Move.requests, rendered]
      have left : ((Move.label mob name).effect p.scene).world =
          p.scene.world.setLabel mob (some text) := by
        simp [Move.effect, rendered]
      simp only [deeds, Move.makeAll_pair labelled, Move.calls_make, Move.scene_make, asked]
      refine ⟨_, List.append_assoc _ _ _, ?_⟩
      simp only [Move.effect] at left ⊢
      rw [left]
      exact .lead ready rendered
    | error error =>
      have unlabelled : Move.makeAll [.label mob name, .bind mob (.warp name)] p =
          (Move.label mob name).make p := by
        simp [Move.makeAll, Move.make, rendered]
      simp only [deeds, unlabelled, Move.calls_make, Move.scene_make, Move.requests, Move.effect,
        rendered]
      exact ⟨_, rfl, .nothing⟩
  case remove =>
    have unbound : ((Move.unbind mob).make p).2 = none := rfl
    simp only [deeds, Move.makeAll_pair unbound, Move.calls_make, Move.scene_make]
    exact ⟨_, List.append_assoc _ _ _, .remove ready⟩
  all_goals
    simp only [deeds, Move.makeAll_singleton, Move.calls_make, Move.scene_make]
    refine ⟨_, rfl, ?_⟩
  case setWarp => exact .setWarp ready
  case deleteWarp => exact .deleteWarp ready
  case create.command => exact .serve ready
  case reload =>
    simp only [Move.effect, Move.requests]
    split <;> exact .nothing
  all_goals exact .nothing

/-- The moves of an action are entered: its deeds are, and words are no entries. -/
theorem Pending.entry_moves {pending : Pending} {p : Progress}
    (named : pending.actor = p.scene.actor.name) (ready : pending.action.Ready p.scene)
    (unentered : p.calls.filter Call.isEntry = []) :
    p.scene.Entry pending.action
      ((Move.makeAll (pending.moves p.scene.world) p).1.calls.filter Call.isEntry)
      (Move.makeAll (pending.moves p.scene.world) p).1.scene.world := by
  obtain ⟨words, moves, quiet⟩ := pending.moves_eq p.scene.world
  obtain ⟨asked, calls, entry⟩ := entry_deeds named ready
  have entered : (Move.makeAll pending.deeds p).1.calls.filter Call.isEntry =
      asked.filter Call.isEntry := by
    rw [calls, List.filter_append, unentered, List.nil_append]
  rw [← entered] at entry
  rw [moves, Move.makeAll_append]
  split
  next q done =>
    rw [done] at entry
    rw [Move.entries_words quiet, Move.scene_makeAll_words quiet]
    exact entry
  next q failure failed =>
    rw [failed] at entry
    exact entry

namespace Scene

theorem run_entry (scene : Scene) (hooks : List Hook) (action : Action) :
    scene.Entry action ((scene.run hooks action).progress.calls.filter Call.isEntry)
      (scene.run hooks action).progress.scene.world := by
  have unentered (pending : Pending) : (pending.consult 0 hooks).1.filter Call.isEntry = [] := by
    refine List.filter_eq_nil_iff.2 fun call mem => ?_
    obtain ⟨index, asked, rfl⟩ := Pending.isQuestion_of_mem_consult mem
    exact Bool.false_ne_true
  have moved {pending : Pending} {start : Progress}
      (checked : action.prepare scene.actor scene.world = .ok pending) (same : start.scene = scene)
      (asked : start.calls = (pending.consult 0 hooks).1) :
      scene.Entry action
        ((Move.makeAll (pending.moves scene.world) start).1.calls.filter Call.isEntry)
        (Move.makeAll (pending.moves scene.world) start).1.scene.world := by
    have ready := (Action.authorized_of_prepare checked).ready
    obtain ⟨-, -, command, -, rfl⟩ := Action.checks_of_prepare checked
    subst same
    exact @Pending.entry_moves ⟨start.scene.actor.name, action, command⟩ start rfl ready
      (asked ▸ unentered _)
  have course := scene.run_course hooks action
  generalize scene.run hooks action = turn at course ⊢
  cases course with
  | unprepared checked same silent =>
    rw [same, silent]
    exact .nothing
  | vetoed checked veto same asked =>
    rw [same, asked, unentered]
    exact .nothing
  | completed checked allowed same asked made =>
    have entry := moved checked same asked
    rw [made] at entry
    exact entry
  | failed checked allowed same asked made =>
    have entry := moved checked same asked
    rw [made] at entry
    exact entry

/-- An answer asks of the records what its action does. -/
theorem Answer.entry {scene : Scene} {hooks : List Hook} {action : Action} {turn : Turn}
    (h : scene.Answer hooks action turn) :
    scene.Entry action (turn.progress.calls.filter Call.isEntry) turn.progress.scene.world := by
  obtain ⟨added, calls, kind⟩ := h.calls_eq
  have unentered : added.filter Call.isEntry = [] := by
    rcases kind with rfl | ⟨text, rfl⟩ | rfl <;> rfl
  rw [calls, List.filter_append, unentered, List.append_nil, h.world_eq]
  exact scene.run_entry hooks action

end Scene

/-- The calls of an exchange that are about the records of the world. -/
def Exchange.entries (exchange : Exchange) : List Call :=
  exchange.turn.progress.calls.filter Call.isEntry

theorem Server.Hosts.entry {server : Server} {event : Server.Event} {exchange : Exchange}
    (h : server.Hosts event exchange) :
    ∃ action, exchange.scene.actionFor exchange.request = some action ∧
      exchange.scene.Entry action exchange.entries (server.next event).world := by
  obtain ⟨action, stands, answer⟩ := Scene.answer_cases h.answered
  exact ⟨action, stands, h.world_next ▸ answer.entry⟩

/-- What every entry keeps while the world is so, is kept through an orderly session in which the
world is so. -/
theorem Server.kept_after {α : Type} {so : World → Prop} {read : World → α}
    (unruled : ∀ world rules, read { world with rules } = read world)
    (kept : ∀ scene action calls world, Scene.Entry scene action calls world →
      so scene.world → so world → read world = read scene.world)
    {server : Server} {events : List Server.Event} (orderly : ∀ event ∈ events, event.IsOrderly)
    (h : server.Throughout events so) :
    read (server.after events).world = read server.world := by
  induction events generalizing server with
  | nil => rfl
  | cons event rest ih =>
    obtain ⟨here, later⟩ := List.forall_mem_cons.1 orderly
    refine (ih later h.tail).trans ?_
    cases met : server.exchange? event with
    | none =>
      rw [world_next_of_silent here met]
      exact unruled _ _
    | some exchange =>
      have hosts := hosts_of_exchange? met
      obtain ⟨action, -, entry⟩ := hosts.entry
      have started := h.start
      rw [← hosts.world] at started ⊢
      exact kept _ _ _ _ entry started h.tail.start

end InteractiveMobs
