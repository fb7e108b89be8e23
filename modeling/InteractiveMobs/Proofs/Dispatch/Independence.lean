import InteractiveMobs.Proofs.Dispatch.Footprint

/-!
# Independent requests

Requests of two actors are independent if they are about different sites, and neither is for a list
of warps or a reload. Then it makes no difference which one is answered first: a request leaves the
other actors and the other sites alone (`Server.step_frame`), and how it is answered depends on its
own actor and its own sites only (`Server.AgreeOn.step_agree`). So the servers behind the two orders
agree on everything that the one request is not about, and on everything that the other is not
about; together that is everything.
-/

namespace InteractiveMobs
set_option autoImplicit false

/-- An action that is about its sites only. -/
def Action.IsLocal (action : Action) : Prop := action ≠ .listWarps ∧ action ≠ .reload

/-- What the host sees of a turn: the result, and the calls. -/
def Turn.seen (turn : Turn) : Except Failure Outcome × List Call :=
  (turn.result, turn.progress.calls)

namespace Server

/-- The action that a request stands for when the actor of the index makes it. -/
def actionFor (server : Server) (index : Nat) (request : Request) : Option Action :=
  (server.scene? index).bind (·.actionFor request)

/-- What such a request is about. -/
def sites (server : Server) (index : Nat) (request : Request) : List Site :=
  request.sitesFor (server.actionFor index request)

/-- Requests of two actors about different sites. -/
structure Independent (server : Server) (index : Nat) (request : Request) (index' : Nat)
    (request' : Request) : Prop where
  actors : index ≠ index'
  sites : ∀ site ∈ server.sites index request, site ∉ server.sites index' request'
  first : ∀ action, server.actionFor index request = some action → action.IsLocal
  second : ∀ action, server.actionFor index' request' = some action → action.IsLocal

variable {server other third : Server} {index index' : Nat} {request request' : Request}

theorem sites_congr (h : server.actionFor index request = other.actionFor index request) :
    server.sites index request = other.sites index request := by
  rw [sites, h, sites]

theorem Independent.symm (h : server.Independent index request index' request') :
    server.Independent index' request' index request :=
  ⟨h.actors.symm, fun site there here => h.sites site here there, h.second, h.first⟩

/-- Two servers with the same messages agree on certain actors and certain sites. -/
structure AgreeOn (server other : Server) (who : Nat → Prop) (so : Site → Prop) : Prop where
  actor : ∀ index, who index → server.actors[index]? = other.actors[index]?
  world : server.world.AgreeOn other.world so
  messages : server.messages = other.messages

namespace AgreeOn

variable {who who' : Nat → Prop} {so so' : Site → Prop}

theorem refl (server : Server) (who : Nat → Prop) (so : Site → Prop) :
    server.AgreeOn server who so := ⟨fun _ _ => rfl, .refl server.world so, rfl⟩

theorem symm (h : server.AgreeOn other who so) : other.AgreeOn server who so :=
  ⟨fun index there => (h.actor index there).symm, h.world.symm, h.messages.symm⟩

theorem trans (h : server.AgreeOn other who so) (h' : other.AgreeOn third who so) :
    server.AgreeOn third who so :=
  ⟨fun index there => (h.actor index there).trans (h'.actor index there), h.world.trans h'.world,
    h.messages.trans h'.messages⟩

/-- Servers that agree on every actor and every site are the same. -/
theorem eq_of_cover (h : server.AgreeOn other who so) (h' : server.AgreeOn other who' so')
    (everyone : ∀ index, who index ∨ who' index) (everywhere : ∀ site, so site ∨ so' site) :
    server = other := by
  have actors : server.actors = other.actors := List.ext_getElem? fun index =>
    (everyone index).elim (h.actor index) (h'.actor index)
  have world := h.world.eq_of_cover h'.world everywhere
  have messages := h.messages
  obtain ⟨_, _, _⟩ := server
  obtain ⟨_, _, _⟩ := other
  cases actors
  cases world
  cases messages
  rfl

/-! What a request looks at. -/

theorem scene?_agree (h : server.AgreeOn other who so) (mine : who index) :
    Option.Rel (Scene.AgreeOn · · so) (server.scene? index) (other.scene? index) := by
  unfold scene?
  rw [h.actor index mine]
  cases other.actors[index]? with
  | none => exact .none
  | some actor => exact .some ⟨rfl, h.world, h.messages⟩

theorem actionFor_agree (h : server.AgreeOn other who so) (mine : who index)
    (within : ∀ site ∈ request.sites, so site) :
    server.actionFor index request = other.actionFor index request := by
  have scenes := h.scene?_agree mine
  unfold actionFor
  generalize server.scene? index = found at scenes ⊢
  generalize other.scene? index = found' at scenes ⊢
  cases scenes with
  | none => rfl
  | some agree => exact Scene.actionFor_agree within agree

theorem leave_agree (h : server.AgreeOn other who so) {scene scene' : Scene}
    (agree : scene.AgreeOn scene' so) (index : Nat) :
    (server.leave index scene).AgreeOn (other.leave index scene') who so where
  actor index' there := by
    rw [leave, leave, List.getElem?_set', List.getElem?_set', h.actor index' there, agree.actor]
  world := agree.world
  messages := agree.messages

/-- A request is answered the same way by servers that agree on its actor and its sites, unless the
warps are listed. They agree on no less behind it. -/
theorem step_agree (h : server.AgreeOn other who so) (mine : who index)
    (within : ∀ site ∈ server.sites index request, so site)
    (unlisted : server.actionFor index request ≠ some .listWarps) (hooks : List Hook) :
    (server.step hooks index request).1.AgreeOn (other.step hooks index request).1 who so ∧
      (server.step hooks index request).2.map Turn.seen =
        (other.step hooks index request).2.map Turn.seen := by
  have scenes := h.scene?_agree mine
  unfold sites at within
  unfold actionFor at within unlisted
  unfold step
  generalize server.scene? index = found at scenes within unlisted ⊢
  generalize other.scene? index = found' at scenes ⊢
  cases scenes with
  | none => exact ⟨h, rfl⟩
  | @some scene scene' agree =>
    have alike := Scene.answer_agree unlisted within agree hooks
    dsimp only
    generalize scene.answer hooks request = answered at alike ⊢
    generalize scene'.answer hooks request = answered' at alike ⊢
    cases alike with
    | none => exact ⟨h, rfl⟩
    | some turns =>
      exact ⟨h.leave_agree turns.progress.scene index,
        congrArg some (Prod.ext turns.result turns.progress.calls)⟩

end AgreeOn

/-! ## What a request leaves alone -/

/-- A request leaves the other actors alone, and the sites that it is not about. -/
theorem step_frame (unloaded : server.actionFor index request ≠ some .reload) (hooks : List Hook) :
    server.AgreeOn (server.step hooks index request).1 (· ≠ index)
      (· ∉ server.sites index request) := by
  unfold step
  cases asks : server.scene? index with
  | none => exact .refl server _ _
  | some scene =>
    dsimp only
    cases answered : scene.answer hooks request with
    | none => exact .refl server _ _
    | some turn =>
      obtain ⟨action, stands, answer⟩ := Scene.answer_cases answered
      have found : server.actionFor index request = some action := by
        rw [actionFor, asks, Option.bind_some, stands]
      have away : ∀ site ∈ action.sites, ¬ site ∉ server.sites index request := by
        intro site mentioned
        simp [sites, found, Request.sitesFor, mentioned]
      have unread : action ≠ .reload := by
        rintro rfl
        exact unloaded found
      obtain ⟨actor, -, rfl⟩ := Option.map_eq_some_iff.1 asks
      exact ⟨fun other apart => (List.getElem?_set_ne apart.symm).symm, answer.frame away,
        (answer.messages_eq.trans (Scene.messages_run unread hooks)).symm⟩

/-! ## Either order -/

/-- Behind an independent request of another actor, a request stands for the same action. -/
theorem Independent.actionFor_step (h : server.Independent index request index' request')
    (hooks : List Hook) :
    (server.step hooks index' request').1.actionFor index request =
      server.actionFor index request := by
  have frame := step_frame (fun loads => (h.second _ loads).2 rfl) hooks
  exact (frame.actionFor_agree h.actors fun site named =>
    h.sites site (List.mem_append_left _ named)).symm

/-- A request is answered behind an independent one as before it, and the servers behind the two
orders agree on what the other request is not about. -/
theorem Independent.later (h : server.Independent index request index' request')
    (hooks : List Hook) :
    ((server.step hooks index request).1.step hooks index' request').1.AgreeOn
        ((server.step hooks index' request').1.step hooks index request).1 (· ≠ index)
        (· ∉ server.sites index request) ∧
      ((server.step hooks index request).1.step hooks index' request').2.map Turn.seen =
        (server.step hooks index' request').2.map Turn.seen := by
  have same := h.actionFor_step hooks
  have unloaded : server.actionFor index request ≠ some .reload :=
    fun loads => (h.first _ loads).2 rfl
  have frame := step_frame unloaded hooks
  have frame' := step_frame (same ▸ unloaded) hooks
  rw [sites_congr same] at frame'
  -- What the one leaves alone is all that the other looks at.
  obtain ⟨behind, seen⟩ := frame.step_agree h.actors.symm h.symm.sites
    (fun lists => (h.second _ lists).1 rfl) hooks
  exact ⟨behind.symm.trans frame', seen.symm⟩

/-- **Independent requests commute.** If two actors ask for things that are about different sites,
and for no list of warps and no reload, each request has the same result by the same calls whichever
is answered first, and both orders lead to the same server. -/
theorem step_comm (h : server.Independent index request index' request') (hooks : List Hook) :
    ((server.step hooks index request).1.step hooks index' request').1 =
        ((server.step hooks index' request').1.step hooks index request).1 ∧
      ((server.step hooks index request).1.step hooks index' request').2.map Turn.seen =
        (server.step hooks index' request').2.map Turn.seen ∧
      ((server.step hooks index' request').1.step hooks index request).2.map Turn.seen =
        (server.step hooks index request).2.map Turn.seen := by
  obtain ⟨one, seen⟩ := h.later hooks
  obtain ⟨two, seen'⟩ := h.symm.later hooks
  -- Nobody makes both requests, and no site is one of both.
  refine ⟨one.eq_of_cover two.symm (fun other => ?_) (fun site => ?_), seen, seen'⟩
  · by_cases own : other = index
    · exact .inr (own ▸ h.actors)
    · exact .inl own
  · by_cases about : site ∈ server.sites index request
    · exact .inr (h.sites site about)
    · exact .inl about

/-- A player in front of a mob that leads to the spawn, and one about to make a mob that leads to
the market. -/
def market : Server where
  actors := [{ name := "Ada", holds := fun _ => true },
    { name := "Bob", holds := fun _ => true, mode := .creating (.warp ⟨"market"⟩) }]
  world := {
    bindings := .ofList [(⟨7⟩, .warp ⟨"spawn"⟩)]
    rules := { configuration := .error .homeNotFound } }
  messages := .ofConfig (.ofEntries [("action-create-success", "done"),
    ("mob-name-text", "To \x7b\x7d"), ("warp-success", "there")])

/-- Bob's use of a mob ends as it would have done before Ada's use of another. -/
theorem market_uses : market.Independent 0 (.interact ⟨7⟩) 1 (.interact ⟨8⟩) ∧
    ((market.step [] 0 (.interact ⟨7⟩)).1.step [] 1 (.interact ⟨8⟩)).1 =
      ((market.step [] 1 (.interact ⟨8⟩)).1.step [] 0 (.interact ⟨7⟩)).1 ∧
    ((market.step [] 0 (.interact ⟨7⟩)).1.step [] 1 (.interact ⟨8⟩)).2.map Turn.seen =
      some (.ok .completed, [.setMobName ⟨8⟩ (some "To market"), .bind ⟨8⟩ (.warp ⟨"market"⟩),
        .send "done", .setMode .idle]) := by
  have apart : market.Independent 0 (.interact ⟨7⟩) 1 (.interact ⟨8⟩) := by
    refine ⟨by decide, by decide, ?_, ?_⟩
    · rintro action ⟨⟩
      exact ⟨nofun, nofun⟩
    · rintro action ⟨⟩
      exact ⟨nofun, nofun⟩
  obtain ⟨left, later, -⟩ := step_comm apart []
  exact ⟨apart, left, later.trans rfl⟩

end Server
end InteractiveMobs
