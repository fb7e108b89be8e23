import InteractiveMobs.Proofs.Formatting.Visible
import InteractiveMobs.Proofs.Template.Filling

/-!
# What a message shows

Rendering puts codes around arguments and translates the message as a whole. On display none of that
is to be seen: a message shows what its literals, directives and arguments show each on its own
(`strip_render`). Codes across the seams between them are kept out: section signs of the text's or
the arguments' own, and markers at the end of a literal, a directive or an argument.
-/

namespace InteractiveMobs
set_option autoImplicit false
open Formatting

/-- What is to be seen for a segment behind others; nothing if it lacks its argument. -/
def Segment.showing? (before : List Segment) (args : List String) : Segment → Option String
  | literal text => some (visible text)
  | token directive => args[before.countP isToken]?.map fun value =>
    match directive with
    | none => visible value
    | some directive => visible directive ++ visible value

theorem Formatting.State.Written.track {state : State} (h : state.Written)
    (segments : List Segment) : (state.track segments).Written := by
  fun_induction State.track state segments with
  | case1 => exact h
  | case2 state text rest ih => exact ih (h.scanChars _)
  | case3 state directive rest ih => exact ih h

/-- The filling of a segment shows what the segment is to show, whatever follows it. -/
theorem Segment.shows_filling {before : List Segment} {args : List String} {segment : Segment}
    {filling : String} (filled : segment.filling? before args = some filling)
    (chars : IsClosed segment.chars)
    (argument : ∀ value, segment.isToken = true → args[before.countP isToken]? = some value →
      IsClosed value.toList) :
    segment.showing? before args = some (visible filling) ∧
      Shows filling.toList (visible filling).toList := by
  cases segment with
  | literal text =>
    cases filled
    exact ⟨rfl, .visible_of_closed chars⟩
  | token directive =>
    obtain ⟨value, taken, rfl⟩ := Option.map_eq_some_iff.1 filled
    have shown : Shows value.toList (visible value).toList :=
      .visible_of_closed (argument value rfl taken)
    cases directive with
    | none => exact ⟨by simp only [showing?, taken, Option.map_some], shown⟩
    | some directive =>
      have restored := Shows.restorePrefix (State.Written.fresh.track before)
      have filled : Shows (resetCode ++ directive ++ value ++ resetCode ++
          (State.track {} before).restorePrefix).toList
            (visible directive ++ visible value).toList := by
        have parts := (((Shows.resetCode.append (.visible_of_closed chars)).append shown).append
          .resetCode).append restored
        simpa only [String.toList_append, List.nil_append, List.append_nil] using parts
      have same : visible (resetCode ++ directive ++ value ++ resetCode ++
          (State.track {} before).restorePrefix) = visible directive ++ visible value := by
        rw [← String.toList_inj, toList_visible, filled.visibleChars_eq]
      exact ⟨by simp only [showing?, taken, Option.map_some, same], same ▸ filled⟩

namespace Template

/-- Nothing that a message is made of makes or breaks a code of its neighbours. -/
structure Seamless (raw : String) (args : List String) : Prop where
  enough : (compile raw).tokenCount ≤ args.length
  raw_unmarked : displayMarker ∉ raw.toList
  args_unmarked : ∀ value ∈ args.take (compile raw).tokenCount, displayMarker ∉ value.toList
  /-- No literal and no directive leaves a marker open. -/
  segments_closed : ∀ segment ∈ (compile raw).segments, segment.chars.getLast? ≠ some marker
  /-- Nor does an argument that is used. -/
  args_closed : ∀ value ∈ args.take (compile raw).tokenCount,
    value.toList.getLast? ≠ some marker

namespace Seamless

variable {raw : String} {args : List String}

theorem chars (h : Seamless raw args) {segment : Segment}
    (mem : segment ∈ (compile raw).segments) : IsClosed segment.chars where
  unmarked := by
    intro marked
    rw [compile_eq_ofSegments] at mem
    exact h.raw_unmarked (Reading.mem_of_mem_segments mem marked)
  closed := h.segments_closed segment mem

/-- A token takes one of the arguments that the message asks for. -/
theorem argument (h : Seamless raw args) {i : Nat} {segment : Segment} {value : String}
    (there : (compile raw).segments[i]? = some segment) (token : segment.isToken = true)
    (taken : args[((compile raw).segments.take i).countP Segment.isToken]? = some value) :
    IsClosed value.toList := by
  have asked : ((compile raw).segments.take i).countP Segment.isToken <
      (compile raw).tokenCount := by
    have upTo := (List.take_prefix (i + 1) (compile raw).segments).countP_le (p := Segment.isToken)
    rw [List.take_add_one, there, Option.toList_some, List.countP_append, List.countP_singleton,
      if_pos token] at upTo
    rw [tokenCount_compile]
    omega
  have mem : value ∈ args.take (compile raw).tokenCount := by
    rw [← List.getElem?_take_of_lt asked] at taken
    exact List.mem_of_getElem? taken
  exact ⟨h.args_unmarked value mem, h.args_closed value mem⟩

/-- Each filling shows what its segment is to show. -/
theorem shows_filling (h : Seamless raw args) {i : Nat} {segment : Segment} {filling : String}
    (there : (compile raw).segments[i]? = some segment)
    (fills : segment.filling? ((compile raw).segments.take i) args = some filling) :
    segment.showing? ((compile raw).segments.take i) args = some (visible filling) ∧
      Shows filling.toList (visible filling).toList :=
  Segment.shows_filling fills (h.chars (List.mem_of_getElem? there)) fun _ => h.argument there

variable {fillings : List String}

theorem mapIdx_showing (h : Seamless raw args)
    (each : ((compile raw).segments.mapIdx fun i segment =>
      segment.filling? ((compile raw).segments.take i) args) = fillings.map some) :
    ((compile raw).segments.mapIdx fun i segment =>
      segment.showing? ((compile raw).segments.take i) args) = (fillings.map visible).map some := by
  refine List.mapIdx_eq_iff.2 fun i => ?_
  have here := List.mapIdx_eq_iff.1 each i
  rw [List.getElem?_map] at here
  rw [List.map_map, List.getElem?_map]
  cases there : (compile raw).segments[i]? with
  | none =>
    rw [there, Option.map_none, Option.map_eq_none_iff] at here
    rw [here]
    rfl
  | some segment =>
    rw [there, Option.map_some] at here
    obtain ⟨filling, filled, fills⟩ := Option.map_eq_some_iff.1 here
    rw [filled, Option.map_some, Option.map_some, (h.shows_filling there fills.symm).1]
    rfl

theorem visible_join (h : Seamless raw args)
    (each : ((compile raw).segments.mapIdx fun i segment =>
      segment.filling? ((compile raw).segments.take i) args) = fillings.map some) :
    visible (String.join fillings) = String.join (fillings.map visible) := by
  have parts : ∀ filling ∈ fillings, Shows filling.toList (visible filling).toList := by
    intro filling mem
    obtain ⟨i, filled⟩ := List.mem_iff_getElem?.1 mem
    have here := List.mapIdx_eq_iff.1 each i
    rw [List.getElem?_map, filled, Option.map_some] at here
    obtain ⟨segment, there, fills⟩ := Option.map_eq_some_iff.1 here.symm
    exact (h.shows_filling there fills).2
  have joined := (Shows.join parts).visibleChars_eq
  rwa [← toList_visible, String.toList_inj] at joined

end Seamless

/-- **Formatting is not seen.** Where no code lies across a seam, a message that is rendered and
stripped is what its segments show, one after the other: a literal its visible text, and a token
the visible text of its directive, if it has one, and of its argument. What any text shows that
brings no section sign are its characters outside of codes. -/
theorem strip_render {raw : String} {args : List String} (h : Seamless raw args) :
    (∃ text shown, (compile raw).render args = .ok text ∧
      ((compile raw).segments.mapIdx fun i segment =>
        segment.showing? ((compile raw).segments.take i) args) = shown.map some ∧
      strip text = String.join shown) ∧
    ∀ text : String, displayMarker ∉ text.toList →
      visible text = String.ofList (outside text.toList) := by
  refine ⟨?_, fun text => visible_eq_outside⟩
  have enough : (compile raw).segments.countP Segment.isToken ≤ args.length :=
    tokenCount_compile raw ▸ h.enough
  obtain ⟨fillings, each, expanded⟩ :=
    @expand_eq_fillings (compile raw).segments [] args enough
  refine ⟨translate (String.join fillings), fillings.map visible, ?_, h.mapIdx_showing each,
    h.visible_join each⟩
  rw [render, if_neg (Nat.not_lt.2 h.enough), ← expanded]
  rfl

/-- A message and arguments with codes, and with markers that are no codes. -/
theorem strip_render_stray_markers :
    Seamless "&a&Hi \x7b&e[\x7d x& y\x7b\x7d" ["&cBo&&lb", "!", "&"] ∧
      (∃ text, (compile "&a&Hi \x7b&e[\x7d x& y\x7b\x7d").render ["&cBo&&lb", "!", "&"] =
        .ok text ∧ strip text = "&Hi [Bo&b x& y!") ∧
      visible "&&Cx&z&" = "&x&z&" := by
  have seamless : Seamless "&a&Hi \x7b&e[\x7d x& y\x7b\x7d" ["&cBo&&lb", "!", "&"] :=
    ⟨by decide, by decide, by decide, by decide, by decide⟩
  obtain ⟨⟨text, shown, rendered, each, stripped⟩, plain⟩ := strip_render seamless
  have parts : ["&Hi ", "[Bo&b", " x& y", "!"].map some = shown.map some :=
    Eq.trans (by decide) each
  rw [← List.map_injective_iff.2 (Option.some_injective String) parts] at stripped
  refine ⟨seamless, ⟨text, rendered, stripped⟩, ?_⟩
  rw [plain "&&Cx&z&" (by decide)]
  decide

end Template
end InteractiveMobs
