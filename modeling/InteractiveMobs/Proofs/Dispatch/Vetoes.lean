import InteractiveMobs.Proofs.Dispatch.Modes
import InteractiveMobs.Proofs.Dispatch.Records

/-!
# Vetoes

Hooks decide on what is done. `Turn.Heeds` says what the hooks make of a pending action: they are
asked first and in order, up to the one that vetoes it; a veto is the end of it; and the command
line that is performed is the one they were shown. `Scene.hooks_decide` says it of every answer to a
request, whether the action is asked for or a mob stands for it.
-/

namespace InteractiveMobs
set_option autoImplicit false

/-- The questions about a pending action: to each hook in order, up to the first that rejects it,
or to all of them if none does. -/
def Pending.questions (pending : Pending) (hooks : List Hook) : List Call :=
  (List.range (min (hooks.findIdx (fun hook => !hook pending) + 1) hooks.length)).map
    (.hook · pending)

/-- The command line that an action runs for the actor: its template with the actor's name in it.
Other actions have none. -/
inductive Action.HasLine (actor : Actor) : Action → Option String → Prop where
  | command {name line text : String}
    (rendered : (Template.compile line).render [actor.name] = .ok text) :
    HasLine actor (.runCommand name line) (some text)
  | other {action : Action} (other : ∀ name line, action ≠ .runCommand name line) :
    HasLine actor action none

/-- The command line that a call performs. -/
def Call.line? : Call → Option String
  | command line => some line
  | _ => none

/-- The turn of a pending action goes by what the hooks say. -/
structure Turn.Heeds (turn : Turn) (scene : Scene) (hooks : List Hook) (pending : Pending) :
    Prop where
  /-- Hooks are asked before anything is done, and then no more. -/
  asked : ∃ done, turn.progress.calls = pending.questions hooks ++ done ∧
    ∀ call ∈ done, ¬ call.IsQuestion
  vetoed_iff : turn.result = .ok .vetoed ↔ ∃ hook ∈ hooks, hook pending = false
  /-- Behind a veto nothing is done. -/
  stopped : turn.result = .ok .vetoed →
    turn.progress.calls = pending.questions hooks ∧ turn.progress.scene = scene
  /-- Else the command line that the hooks were shown is performed, once, and no other. -/
  performed : turn.result ≠ .ok .vetoed →
    turn.progress.calls.filterMap Call.line? = pending.command.toList
  failed : ∀ line, turn.result = .error (.commandFailed line) → pending.command = some line

/-! ## Questions -/

namespace Pending

theorem calls_consult (pending : Pending) (index : Nat) (hooks : List Hook) :
    (pending.consult index hooks).1 =
      (List.range' index
        (min (hooks.findIdx (fun hook => !hook pending) + 1) hooks.length)).map
          (.hook · pending) := by
  induction hooks generalizing index with
  | nil => simp [consult]
  | cons hook rest ih =>
    rw [consult, List.findIdx_cons, List.length_cons]
    cases allows : hook pending with
    | false => simp
    | true => simp [ih, Nat.succ_min_succ, List.range'_succ]

theorem consult_eq_questions (pending : Pending) (hooks : List Hook) :
    (pending.consult 0 hooks).1 = pending.questions hooks := by
  rw [calls_consult, questions, List.range_eq_range']

theorem vetoed_consult (pending : Pending) (hooks : List Hook) :
    (pending.consult 0 hooks).2 = false ↔ ∃ hook ∈ hooks, hook pending = false := by
  rw [← Bool.not_eq_true, allowed_consult]
  simp

theorem lines_questions (pending : Pending) (hooks : List Hook) :
    (pending.questions hooks).filterMap Call.line? = [] := by
  simp [questions, List.filterMap_map, Function.comp_def, Call.line?]

end Pending

/-! ## Moves -/

namespace Move

/-- Moves ask no hook. -/
theorem not_isQuestion_of_mem_requests {move : Move} {scene : Scene} {call : Call}
    (h : call ∈ move.requests scene) : ¬ call.IsQuestion := by
  rintro ⟨index, pending, rfl⟩
  cases move <;> simp only [requests] at h
  case label => split at h <;> simp at h
  case tell => split at h <;> simp at h
  all_goals simp at h

/-- Only performing a command line is a call that performs one. -/
theorem lines_requests {move : Move} (h : ∀ line, move ≠ .perform line) (scene : Scene) :
    (move.requests scene).filterMap Call.line? = [] := by
  cases move <;> simp only [requests]
  case perform line => exact absurd rfl (h line)
  case label => split <;> rfl
  case tell => split <;> rfl
  all_goals rfl

theorem lines_makeAll {moves : List Move} (h : ∀ line, .perform line ∉ moves) (p : Progress) :
    (makeAll moves p).1.calls.filterMap Call.line? = p.calls.filterMap Call.line? := by
  refine makeAll_keeps (·.calls.filterMap Call.line? = p.calls.filterMap Call.line?)
    (fun move mem q same => ?_) rfl
  have quiet : ∀ line, move ≠ .perform line := by
    rintro line rfl
    exact h line mem
  rw [calls_make, List.filterMap_append, lines_requests quiet, List.append_nil, same]

theorem asked_makeAll (moves : List Move) (p : Progress) :
    ∃ done, (makeAll moves p).1.calls = p.calls ++ done ∧ ∀ call ∈ done, ¬ call.IsQuestion := by
  refine makeAll_keeps
    (fun q => ∃ done, q.calls = p.calls ++ done ∧ ∀ call ∈ done, ¬ call.IsQuestion)
    (fun move mem q asked => ?_) ⟨[], by simp, by simp⟩
  obtain ⟨done, calls, unasked⟩ := asked
  refine ⟨done ++ move.requests q.scene, by rw [calls_make, calls, List.append_assoc], ?_⟩
  intro call mem
  rcases List.mem_append.1 mem with before | now
  · exact unasked call before
  · exact not_isQuestion_of_mem_requests now

/-- Only performing a command line fails as one. -/
theorem eq_perform_of_failed {move : Move} {p q : Progress} {line : String}
    (h : move.make p = (q, some (.commandFailed line))) : move = .perform line := by
  rcases (make_failed h).2 with ⟨-, request, refused, calls⟩ | ⟨-, ⟨error, same⟩, -⟩
  · cases refused
    have made := calls_make move p
    rw [h, calls, List.append_cancel_left_eq] at made
    cases move <;> simp only [requests] at made
    case perform line' =>
      cases made
      rfl
    case label => split at made <;> cases made
    case tell => split at made <;> cases made
    all_goals cases made
  · cases same

end Move

namespace Pending

variable {pending : Pending} {actor : Actor}

/-- An action performs its command line only. -/
theorem command_of_perform (has : pending.action.HasLine actor pending.command) {world : World}
    {line : String} (h : .perform line ∈ pending.moves world) : pending.command = some line := by
  have deed := mem_deeds h rfl
  obtain ⟨name, action, command⟩ := pending
  cases has with
  | command rendered => simpa [deeds, eq_comm] using deed
  | other other =>
    cases action with
    | runCommand name line => exact absurd rfl (other name line)
    | create mob binding => cases binding <;> simp [deeds] at deed
    | _ => simp [deeds] at deed

/-- Its moves perform it once. -/
theorem lines_moves (has : pending.action.HasLine actor pending.command) (world : World)
    (p : Progress) :
    (Move.makeAll (pending.moves world) p).1.calls.filterMap Call.line? =
      p.calls.filterMap Call.line? ++ pending.command.toList := by
  cases command : pending.command with
  | none =>
    rw [Move.lines_makeAll, Option.toList_none, List.append_nil]
    intro line mem
    rw [command_of_perform has mem] at command
    cases command
  | some text =>
    obtain ⟨name, action, line⟩ := pending
    cases has with
    | other => cases command
    | command rendered =>
      cases command
      have made := congrArg (List.filterMap Call.line?) (Move.calls_make (.perform text) p)
      rw [List.filterMap_append] at made
      -- It is the first move, and so it is performed also where the host turns it down.
      simp only [moves, Option.getD_some]
      rw [Move.makeAll_cons]
      split
      next q performed =>
        rw [performed] at made
        exact made
      next q failure refused =>
        rw [refused] at made
        exact made

/-- Behind the questions to the hooks, its moves ask no more, and perform it once. -/
theorem calls_moves (has : pending.action.HasLine actor pending.command) {hooks : List Hook}
    {world : World} {start progress : Progress} {failed : Option Failure}
    (asked : start.calls = (pending.consult 0 hooks).1)
    (made : Move.makeAll (pending.moves world) start = (progress, failed)) :
    (∃ done, progress.calls = pending.questions hooks ++ done ∧
        ∀ call ∈ done, ¬ call.IsQuestion) ∧
      progress.calls.filterMap Call.line? = pending.command.toList := by
  have calls := Move.asked_makeAll (pending.moves world) start
  have lines := lines_moves has world start
  rw [consult_eq_questions] at asked
  rw [made, asked] at calls lines
  rw [lines_questions] at lines
  exact ⟨calls, lines⟩

end Pending

theorem Action.hasLine_of_render {action : Action} {actor : Actor} {command : Option String}
    (h : action.renderCommand actor = .ok command) : action.HasLine actor command := by
  cases action with
  | runCommand name line =>
    simp only [renderCommand] at h
    split at h
    next text rendered =>
      cases h
      exact .command rendered
    next => cases h
  | _ =>
    cases h
    refine .other fun name line same => ?_
    cases same

/-- Only a command line can fail to render. -/
theorem Action.unrendered_of_render {action : Action} {actor : Actor} {failure : Failure}
    (h : action.renderCommand actor = .error failure) :
    ∃ name line error, action = .runCommand name line ∧
      (Template.compile line).render [actor.name] = .error error ∧ failure = .message error := by
  cases action with
  | runCommand name line =>
    simp only [renderCommand] at h
    split at h
    next => cases h
    next error unrendered =>
      cases h
      exact ⟨name, line, error, rfl, unrendered, rfl⟩
  | _ => cases h

namespace Scene

variable {scene : Scene} {hooks : List Hook} {action : Action}

/-- Running a pending action goes by what the hooks say. -/
theorem run_heeds {pending : Pending}
    (checked : action.prepare scene.actor scene.world = .ok pending)
    (has : pending.action.HasLine scene.actor pending.command) :
    (scene.run hooks action).Heeds scene hooks pending := by
  have course := scene.run_course hooks action
  generalize scene.run hooks action = turn at course ⊢
  have unvetoed (allowed : (pending.consult 0 hooks).2 = true) :
      ¬ ∃ hook ∈ hooks, hook pending = false := by
    rw [← pending.vetoed_consult hooks, allowed]
    exact Bool.noConfusion
  cases course with
  | unprepared unchecked =>
    rw [checked] at unchecked
    cases unchecked
  | vetoed checked' veto same asked =>
    cases checked.symm.trans checked'
    rw [Pending.consult_eq_questions] at asked
    exact ⟨⟨[], by simp [asked], by simp⟩, iff_of_true rfl ((pending.vetoed_consult hooks).1 veto),
      fun _ => ⟨asked, same⟩, fun other => absurd rfl other, nofun⟩
  | completed checked' allowed _ asked made =>
    cases checked.symm.trans checked'
    obtain ⟨calls, lines⟩ := Pending.calls_moves has asked made
    exact ⟨calls, iff_of_false nofun (unvetoed allowed), nofun, fun _ => lines, nofun⟩
  | failed checked' allowed _ asked made =>
    cases checked.symm.trans checked'
    obtain ⟨calls, lines⟩ := Pending.calls_moves has asked made
    refine ⟨calls, iff_of_false nofun (unvetoed allowed), nofun, fun _ => lines, fun line why => ?_⟩
    obtain ⟨move, mem, before, failed⟩ := Move.exists_of_makeAll_failed made
    cases why
    exact Pending.command_of_perform has (Move.eq_perform_of_failed failed ▸ mem)

/-- An answer to a request adds nothing to a vetoed action. -/
theorem Answer.eq_run_of_vetoed {turn : Turn} (h : scene.Answer hooks action turn)
    (vetoed : turn.result = .ok .vetoed) : turn = scene.run hooks action := by
  cases h with
  | plain => rfl
  | told failed =>
    dsimp only at vetoed
    rw [failed] at vetoed
    cases vetoed
  | edited completed =>
    dsimp only at vetoed
    rw [completed] at vetoed
    cases vetoed

/-- An answer to a request goes by what the hooks say if its action does. -/
theorem Answer.heeds {turn : Turn} {pending : Pending} (h : scene.Answer hooks action turn)
    (heeds : (scene.run hooks action).Heeds scene hooks pending) :
    turn.Heeds scene hooks pending := by
  obtain ⟨added, calls, kind⟩ := h.calls_eq
  obtain ⟨done, asked, unasked⟩ := heeds.asked
  have quiet : (∀ call ∈ added, ¬ call.IsQuestion) ∧ added.filterMap Call.line? = [] := by
    rcases kind with rfl | ⟨text, rfl⟩ | rfl <;> simp [Call.IsQuestion, Call.line?]
  refine ⟨⟨done ++ added, ?_, ?_⟩, ?_, fun vetoed => ?_, fun unvetoed => ?_, ?_⟩
  · rw [calls, asked, List.append_assoc]
  · exact List.forall_mem_append.2 ⟨unasked, quiet.1⟩
  · rw [h.result_eq]
    exact heeds.vetoed_iff
  · rw [h.result_eq] at vetoed
    rw [h.eq_run_of_vetoed (h.result_eq.trans vetoed)]
    exact heeds.stopped vetoed
  · rw [calls, List.filterMap_append, quiet.2, List.append_nil]
    exact heeds.performed (h.result_eq ▸ unvetoed)
  · rw [h.result_eq]
    exact heeds.failed

/-- **Hooks decide on what is done.** An actor may have the action done that a request of theirs
stands for. Then the hooks are asked about it in order, up to the first that vetoes it, each with
the actor's name and the command line; the action is vetoed just if one of them vetoes it, and then
nothing else is done; and otherwise the command line they were shown is performed, if there is one.
Only an action whose command line cannot be rendered comes before no hook: it fails for that. -/
theorem hooks_decide {request : Request} (stands : scene.actionFor request = some action)
    (granted : action.checkActor scene.actor = .ok ())
    (possible : action.checkState scene.actor scene.world = .ok ()) (hooks : List Hook) :
    ∃ turn, scene.answer hooks request = some turn ∧
      ((∃ command, action.HasLine scene.actor command ∧
        turn.Heeds scene hooks { actor := scene.actor.name, action, command }) ∨
      ∃ name line error, action = .runCommand name line ∧
        (Template.compile line).render [scene.actor.name] = .error error ∧
        turn.result = .error (.message error) ∧ turn.progress.scene = scene ∧
        ∀ call ∈ turn.progress.calls, ∃ text, call = .send text) := by
  obtain ⟨turn, answered, answer⟩ := exists_answer stands hooks
  refine ⟨turn, answered, ?_⟩
  have checked := action.prepare_eq scene.actor scene.world
  rw [granted, possible] at checked
  cases rendered : action.renderCommand scene.actor with
  | ok command =>
    rw [rendered] at checked
    have has := Action.hasLine_of_render rendered
    exact .inl ⟨command, has, answer.heeds (run_heeds checked has)⟩
  | error failure =>
    rw [rendered] at checked
    obtain ⟨name, line, error, rfl, unrendered, rfl⟩ := Action.unrendered_of_render rendered
    exact .inr ⟨name, line, error, rfl, unrendered, answer.unprepared checked⟩

/-- A player in front of a mob that heals, at a host that performs no command line. -/
def infirmary : Scene where
  actor := { name := "Ada", holds := fun _ => true, performs := fun _ => false }
  world := {
    bindings := .ofList [(⟨7⟩, .command "heal" "heal \x7b\x7d")]
    rules := { configuration := .error .homeNotFound } }
  messages := {}

/-- The hooks are shown the command line that the host then turns down. -/
theorem infirmary_heal :
    ∃ turn, infirmary.answer [fun _ => true, fun _ => true] (.interact ⟨7⟩) = some turn ∧
      turn.result = .error (.commandFailed "heal Ada") ∧
      turn.Heeds infirmary [fun _ => true, fun _ => true]
        ⟨"Ada", .runCommand "heal" "heal \x7b\x7d", some "heal Ada"⟩ := by
  have line : (Template.compile "heal \x7b\x7d").render ["Ada"] = .ok "heal Ada" := by rfl
  obtain ⟨turn, answered, decided⟩ :=
    @hooks_decide infirmary _ (.interact ⟨7⟩) rfl rfl rfl [fun _ => true, fun _ => true]
  refine ⟨turn, answered, ?_, ?_⟩
  · cases answered
    rfl
  rcases decided with ⟨command, has, heeds⟩ | ⟨name, line', error, same, unrendered, -⟩
  · cases has with
    | command rendered =>
      cases line.symm.trans rendered
      exact heeds
    | other other => exact absurd rfl (other _ _)
  · cases same
    cases line.symm.trans unrendered

end Scene
end InteractiveMobs
