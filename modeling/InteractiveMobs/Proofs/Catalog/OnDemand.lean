import InteractiveMobs.Catalog.History
import InteractiveMobs.Proofs.Catalog.Adequacy
import InteractiveMobs.Proofs.Catalog.KeyOrder
import Mathlib.Data.List.Induction

/-!
# Answers on demand

Messages are compiled when a document is loaded, long before anyone asks for them, and whoever took
a snapshot goes on asking an old set. None of this shows. `Config.Answers` says what the answer to
a question is if it is worked out from the document itself when the question is asked, and every
answer is one of these for a single document: the one in force, or the one that was in force when
the snapshot was taken (`History.answers_on_demand`).
-/

namespace InteractiveMobs
set_option autoImplicit false

/-- The answer to a question, worked out from the texts of a document. -/
inductive Config.Answers (config : Config) : History.Query → History.Answer → Prop where
  | unknown {key : MessageKey} {args : List String} (absent : config.get? key = none) :
    Answers config (.render key args) (.rendered (.error (.unknownKey key)))
  | rendered {key : MessageKey} {args : List String} {raw : String}
    (found : config.get? key = some raw) :
    Answers config (.render key args) (.rendered ((Template.compile raw).render args))
  | template {key : MessageKey} :
    Answers config (.get key) (.template ((config.get? key).map Template.compile))
  | keys {keys : List MessageKey} (listing : config.IsListing keys) :
    Answers config .keys (.keys keys)
  | size {keys : List MessageKey} (listing : config.IsListing keys) :
    Answers config .size (.size keys.length)

/-- A message set answers as if it compiled the messages when it is asked for them. -/
theorem Config.answers_ofConfig (config : Config) (query : History.Query) :
    config.Answers query (query.answer (.ofConfig config)).1 := by
  have listing := MessageSet.isListing_keys config
  cases query with
  | render key args =>
    show config.Answers _ (.rendered ((MessageSet.ofConfig config).render key args))
    unfold MessageSet.render
    rw [MessageSet.get?_ofConfig]
    cases found : config.get? key with
    | none => exact .unknown found
    | some raw => exact .rendered found
  | get key =>
    show config.Answers _ (.template ((MessageSet.ofConfig config).get? key))
    rw [MessageSet.get?_ofConfig]
    exact .template
  | keys => exact .keys listing
  | size =>
    show config.Answers _ (.size (MessageSet.ofConfig config).size)
    rw [← MessageSet.length_keys]
    exact .size listing

namespace History

/-- The document that a request loads, if any. -/
def Request.loaded? : Request → Option Config
  | reload config => some config
  | ask _ _ | takeSnapshot => none

/-- The document in force after some requests: the last one loaded, or else the first one. -/
def inForce (config : Config) (requests : List Request) : Config :=
  (requests.filterMap Request.loaded?).getLastD config

/-- The history after some requests. -/
def after (history : History) (requests : List Request) : History :=
  requests.foldl (fun history request => (history.step request).1) history

theorem after_append (history : History) (first rest : List Request) :
    history.after (first ++ rest) = (history.after first).after rest := List.foldl_append

/-- Every question to the target is answered from the document. -/
def AnswersFrom (history : History) (target : Target) (config : Config) : Prop :=
  ∀ query, config.Answers query (history.step (.ask query target)).2.1

/-- A target that is a compiled document answers from it. -/
theorem answersFrom_of_resolve {history : History} {target : Target} {config : Config}
    (h : history.resolve target = some (.ofConfig config)) : history.AnswersFrom target config := by
  intro query
  simp only [step, h]
  exact config.answers_ofConfig query

/-! ## Steps and runs -/

/-- A request puts another set in force only by loading its document. -/
theorem current_step (history : History) (request : Request) :
    (history.step request).1.current =
      (request.loaded?.map MessageSet.ofConfig).getD history.current := by
  cases request with
  | ask query target =>
    simp only [step]
    split <;> rfl
  | takeSnapshot => rfl
  | reload config => rfl

/-- A request leaves the snapshots there are, and puts at most one behind them. -/
theorem snapshots_step (history : History) (request : Request) :
    history.snapshots <+: (history.step request).1.snapshots := by
  cases request with
  | ask query target =>
    simp only [step]
    split <;> exact List.prefix_refl _
  | takeSnapshot => exact List.prefix_append _ _
  | reload config => exact List.prefix_refl _

theorem current_after (config : Config) (requests : List Request) :
    ((ofConfig config).after requests).current = .ofConfig (inForce config requests) := by
  -- The last request has loaded the document in force, or it was in force before it.
  induction requests using List.reverseRecOn with
  | nil => rfl
  | append_singleton past request ih =>
    have last : inForce config (past ++ [request]) =
        request.loaded?.getD (inForce config past) := by
      unfold inForce
      rw [List.filterMap_append]
      cases request <;> simp [Request.loaded?]
    rw [after_append, last]
    refine (current_step _ request).trans ?_
    rw [ih]
    cases request.loaded? <;> rfl

theorem snapshots_after (history : History) (requests : List Request) :
    history.snapshots <+: (history.after requests).snapshots := by
  induction requests generalizing history with
  | nil => exact List.prefix_refl _
  | cons request rest ih => exact (snapshots_step history request).trans (ih _)

/-- A snapshot stays what it is. -/
theorem resolve_after {history : History} {index : Nat} {messages : MessageSet}
    (h : history.resolve (.snapshot index) = some messages) (requests : List Request) :
    (history.after requests).resolve (.snapshot index) = some messages := by
  obtain ⟨later, more⟩ := history.snapshots_after requests
  have there : history.snapshots[index]? = some messages := h
  show (history.after requests).snapshots[index]? = some messages
  rw [← more, List.getElem?_append_left (List.getElem?_eq_some_iff.1 there).1, there]

/-- **Compiling ahead does not show.** After any requests, every question about the messages in
force is answered from the document that was loaded last, and every question to a snapshot from the
document that was in force when it was taken, whatever was asked for and loaded since. Loading a
document is answered with the number of its messages. -/
theorem answers_on_demand (config : Config) (before behind : List Request) :
    ((ofConfig config).after before).AnswersFrom .current (inForce config before) ∧
    ((ofConfig config).after behind).AnswersFrom (.snapshot 0) config ∧
    (∃ index, (((ofConfig config).after before).step .takeSnapshot).2.1 = .snapshot index ∧
      ((ofConfig config).after (before ++ .takeSnapshot :: behind)).AnswersFrom (.snapshot index)
        (inForce config before)) ∧
    ∀ loaded, ∃ keys, loaded.IsListing keys ∧
      (((ofConfig config).after before).step (.reload loaded)).2.1 = .size keys.length := by
  have current := current_after config before
  refine ⟨answersFrom_of_resolve (congrArg some current), ?_, ⟨_, rfl, ?_⟩, fun loaded => ?_⟩
  · exact answersFrom_of_resolve (resolve_after rfl behind)
  · rw [after_append]
    refine answersFrom_of_resolve (resolve_after ?_ behind)
    show (((ofConfig config).after before).snapshots ++ [((ofConfig config).after before).current])[
      ((ofConfig config).after before).snapshots.length]? = _
    rw [List.getElem?_concat_length, current]
  · exact ⟨_, MessageSet.isListing_keys loaded,
      congrArg Answer.size (MessageSet.length_keys _).symm⟩

end History
end InteractiveMobs
