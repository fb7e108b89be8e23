import InteractiveMobs.Dispatch.Server
import InteractiveMobs.Proofs.Dispatch.Course

/-!
# Refused actions

An action that fails for any reason but a message that cannot be rendered has done nothing:
`step_run_failed` says so for the server as a whole, and which requests were made on the way.
A failed check makes none. Past the checks, hooks are asked, and the only other request is the
one that the host refused, because an action asks first for what can be refused.
-/

namespace InteractiveMobs
set_option autoImplicit false

namespace Move

/-- Moves that the host cannot refuse fail only over a message. -/
theorem message_of_makeAll_failed {moves : List Move}
    (safe : ∀ move ∈ moves, move.isRefusable = false) {p q : Progress} {failure : Failure}
    (h : makeAll moves p = (q, some failure)) : ∃ error, failure = .message error := by
  obtain ⟨move, mem, before, failed⟩ := exists_of_makeAll_failed h
  rcases (make_failed failed).2 with ⟨refusable, -⟩ | ⟨-, message, -⟩
  · rw [safe move mem] at refusable
    cases refusable
  · exact message

/-- Where only the first move can be refused, a refusal comes before anything is done. -/
theorem makeAll_refused {moves : List Move}
    (safe : ∀ move ∈ moves.tail, move.isRefusable = false) {p q : Progress} {failure : Failure}
    (h : makeAll moves p = (q, some failure)) (refusal : ∀ error, failure ≠ .message error) :
    q.scene = p.scene ∧
      ∃ request, Refused p.scene request failure ∧ q.calls = p.calls ++ [request] := by
  cases moves with
  | nil => cases h
  | cons move rest =>
    rw [makeAll_cons] at h
    split at h
    next made =>
      obtain ⟨error, same⟩ := message_of_makeAll_failed safe h
      exact absurd same (refusal error)
    next failed =>
      cases h
      obtain ⟨scene, ⟨-, refused⟩ | ⟨-, ⟨error, same⟩, -⟩⟩ := make_failed failed
      · exact ⟨scene, refused⟩
      · exact absurd same (refusal error)

end Move

/-- A question to a hook. -/
def Call.IsQuestion (call : Call) : Prop := ∃ index pending, call = .hook index pending

theorem Pending.isQuestion_of_mem_consult {pending : Pending} {hooks : List Hook} {index : Nat}
    {call : Call} (h : call ∈ (pending.consult index hooks).1) : call.IsQuestion := by
  induction hooks generalizing index with
  | nil => cases h
  | cons hook rest ih =>
    unfold consult at h
    split at h
    · rcases List.mem_cons.1 h with rfl | h
      · exact ⟨_, _, rfl⟩
      · exact ih h
    · rw [List.mem_singleton] at h
      exact ⟨_, _, h⟩

theorem Call.IsQuestion.ne_send {call : Call} (h : call.IsQuestion) (text : String) :
    call ≠ .send text := by
  obtain ⟨index, pending, rfl⟩ := h
  exact nofun

theorem Refused.ne_send {scene : Scene} {call : Call} {failure : Failure}
    (h : Refused scene call failure) (text : String) : call ≠ .send text := by
  cases h <;> exact nofun

/-- An action that fails over anything but a message leaves its scene alone. The host was asked
for nothing, or for the one thing that it refused. -/
theorem Scene.Course.refused {scene : Scene} {hooks : List Hook} {action : Action} {turn : Turn}
    {failure : Failure} (course : scene.Course hooks action turn)
    (failed : turn.result = .error failure) (refusal : ∀ error, failure ≠ .message error) :
    turn.progress.scene = scene ∧
      ∃ asked refused, turn.progress.calls = asked ++ refused ∧
        (∀ call ∈ asked, call.IsQuestion) ∧
        (refused = [] ∨ ∃ request, refused = [request] ∧ Refused scene request failure) := by
  cases course with
  | unprepared _ same silent => exact ⟨same, [], [], silent, by simp, .inl rfl⟩
  | vetoed => cases failed
  | completed => cases failed
  | failed _ _ same asked made =>
    cases failed
    obtain ⟨unchanged, request, refused, calls⟩ :=
      Move.makeAll_refused (Pending.not_refusable_of_mem_tail _ _) made refusal
    rw [same] at unchanged refused
    rw [asked] at calls
    exact ⟨unchanged, _, [request], calls, fun _ mem => Pending.isQuestion_of_mem_consult mem,
      .inr ⟨request, rfl, refused⟩⟩

/-- An action that fails over anything but a message has sent nothing. -/
theorem Scene.Course.unsent {scene : Scene} {hooks : List Hook} {action : Action} {turn : Turn}
    {failure : Failure} (course : scene.Course hooks action turn)
    (failed : turn.result = .error failure) (refusal : ∀ error, failure ≠ .message error)
    (text : String) : .send text ∉ turn.progress.calls := by
  obtain ⟨-, asked, refused, calls, questions, last⟩ := course.refused failed refusal
  intro sent
  rw [calls, List.mem_append] at sent
  rcases sent with question | turned
  · exact (questions _ question).ne_send text rfl
  · rcases last with rfl | ⟨request, rfl, down⟩
    · cases turned
    · exact down.ne_send text (List.mem_singleton.1 turned).symm

namespace Server

theorem leave_self {server : Server} {index : Nat} {scene : Scene}
    (asks : server.scene? index = some scene) : server.leave index scene = server := by
  obtain ⟨actor, found, rfl⟩ := Option.map_eq_some_iff.1 asks
  have same : server.actors.set index actor = server.actors := by
    apply List.ext_getElem?
    intro i
    rw [List.getElem?_set]
    split
    next here =>
      subst here
      obtain ⟨inside, rfl⟩ := List.getElem?_eq_some_iff.1 found
      simp [inside]
    next => rfl
  rw [leave, same]

/-- **A refused action changes nothing.** If running an action fails for any reason but a
message that cannot be rendered, the server is as before: its warps, bindings and labels, the
modes of all actors, and the messages in force. Nothing was sent, and hooks apart, the host was
asked for nothing, or for the one thing that it refused. -/
theorem step_run_failed {server : Server} {index : Nat} {scene : Scene} {hooks : List Hook}
    {action : Action} {failure : Failure} (asks : server.scene? index = some scene)
    (failed : (scene.run hooks action).result = .error failure)
    (refusal : ∀ error, failure ≠ .message error) :
    (server.step hooks index (.run action)).1 = server ∧
      (∀ text, .send text ∉ (scene.run hooks action).progress.calls) ∧
      ∃ asked refused, (scene.run hooks action).progress.calls = asked ++ refused ∧
        (∀ call ∈ asked, call.IsQuestion) ∧
        (refused = [] ∨ ∃ request, refused = [request] ∧ Refused scene request failure) := by
  have course := scene.run_course hooks action
  obtain ⟨unchanged, asked⟩ := course.refused failed refusal
  have stepped : (server.step hooks index (.run action)).1 =
      server.leave index (scene.run hooks action).progress.scene := by
    simp only [step, asks, Scene.answer]
  rw [stepped, unchanged, leave_self asks]
  exact ⟨rfl, course.unsent failed refusal, asked⟩

/-- A server whose host does not let go of its one warp. -/
def stubborn : Server where
  actors := [{ name := "Ada", holds := fun _ => true, mode := .removing },
    { name := "Bob", holds := fun _ => false, mode := .creating (.warp ⟨"spawn"⟩) }]
  world :=
    { warps := .ofList [(⟨"spawn"⟩, "Ada")]
      rules := { refusesRemoval := fun _ => true, configuration := .error .homeNotFound } }
  messages := {}

theorem stubborn_step : ∃ scene, stubborn.scene? 0 = some scene ∧
    (scene.run [fun _ => true] (.deleteWarp ⟨"spawn"⟩)).result =
      .error (.warpNotFound ⟨"spawn"⟩) ∧
    .removeWarp ⟨"spawn"⟩ ∈ (scene.run [fun _ => true] (.deleteWarp ⟨"spawn"⟩)).progress.calls ∧
    (stubborn.step [fun _ => true] 0 (.run (.deleteWarp ⟨"spawn"⟩))).1 = stubborn := by
  have failed : (Scene.run ⟨stubborn.actors[0], stubborn.world, stubborn.messages⟩
      [fun _ => true] (.deleteWarp ⟨"spawn"⟩)).result = .error (.warpNotFound ⟨"spawn"⟩) := by
    rfl
  refine ⟨_, rfl, failed, ?_, ?_⟩
  · exact List.mem_cons_of_mem _ (List.mem_singleton_self _)
  · exact (step_run_failed rfl failed (by simp)).1

end Server
end InteractiveMobs
