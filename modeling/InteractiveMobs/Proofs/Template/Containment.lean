import InteractiveMobs.Proofs.Formatting.Display
import InteractiveMobs.Proofs.Template.Conservation
import InteractiveMobs.Template.Render

/-!
# Directives are contained

What a directive does ends with its argument. Behind any number of a message's segments, the
display is in the state that the literals among them set up (`displayAfter_eq_tracked`), so a
token with a directive leaves the display as it found it, whatever its directive and its
argument are.

Three things are kept out, since they make or break codes across segments: section signs of the
text's or the arguments' own, codes in arguments without a directive, and a marker at the end of
a literal with such an argument behind it.
-/

namespace InteractiveMobs
set_option autoImplicit false
open Formatting

namespace Formatting.State

/-- The state after the codes in the literals among some segments. -/
def track (state : State) : List Segment → State
  | [] => state
  | .literal text :: rest => (state.scan text).track rest
  | .token _ :: rest => state.track rest

theorem track_append (state : State) (first rest : List Segment) :
    state.track (first ++ rest) = (state.track first).track rest := by
  fun_induction track state first with
  | case1 state => rfl
  | case2 state text first ih => exact ih
  | case3 state other first ih => exact ih

theorem track_concat_token (state : State) (segments : List Segment)
    (directive : Option String) :
    state.track (segments ++ [.token directive]) = state.track segments := track_append ..

end Formatting.State

namespace Template

/-- The state of the display behind the first `j` segments of a message. -/
def displayAfter (template : Template) (args : List String) (j : Nat) :
    Except MessageError State :=
  ((ofSegments (template.segments.take j)).render args).map displayed

/-- Arguments that leave the codes of a message text as they are. -/
structure KeepsCodes (raw : String) (args : List String) : Prop where
  enough : (compile raw).tokenCount ≤ args.length
  raw_unmarked : displayMarker ∉ raw.toList
  args_unmarked : ∀ value ∈ args, displayMarker ∉ value.toList
  /-- Arguments that come without a directive have no codes. -/
  plain_argument : ∀ use ∈ (compile raw).directives.zip args,
    use.1 = none → marker ∉ use.2.toList
  /-- No literal leaves a marker open for such an argument. -/
  plain_seam : (compile raw).segments.IsChain fun a b =>
    ∀ text, a = .literal text → b = .token none → text.toList.getLast? ≠ some marker

/-- What may stand behind a segment: a marker that a literal leaves open meets nothing but the
reset in front of a directive. -/
def Seam (a b : Segment) : Prop :=
  ∀ text, a = .literal text → text.toList.getLast? = some marker →
    ∃ directive, b = .token (some directive)

/-- Segments and arguments with no code across the seams between them. -/
structure Apart (segments : List Segment) (args : List String) : Prop where
  enough : segments.countP Segment.isToken ≤ args.length
  plain : ∀ use ∈ (ofSegments segments).directives.zip args, use.1 = none → marker ∉ use.2.toList
  seams : segments.IsChain Seam

/-- The first segments of a message use the first arguments of it. -/
theorem Apart.of_prefix {shown segments : List Segment} {args : List String}
    (h : Apart segments args) (first : shown <+: segments) : Apart shown args where
  enough := first.countP_le.trans h.enough
  plain := by
    intro use mem
    refine h.plain use ?_
    obtain ⟨i, hi⟩ := List.mem_iff_getElem?.1 mem
    obtain ⟨hdirective, hvalue⟩ := List.getElem?_zip_eq_some.1 hi
    have directives : (ofSegments shown).directives <+: (ofSegments segments).directives :=
      first.filterMap _
    obtain ⟨more, same⟩ := directives
    refine List.mem_iff_getElem?.2 ⟨i, List.getElem?_zip_eq_some.2 ⟨?_, hvalue⟩⟩
    rw [← same, List.getElem?_append_left (List.getElem?_eq_some_iff.1 hdirective).1, hdirective]
  seams := h.seams.prefix first

theorem KeepsCodes.apart {raw : String} {args : List String} (h : KeepsCodes raw args) :
    Apart (compile raw).segments args where
  enough := tokenCount_compile raw ▸ h.enough
  plain := by
    have same : ofSegments (compile raw).segments = compile raw := by
      rw [compile_eq_ofSegments]
      rfl
    exact same ▸ h.plain_argument
  seams := by
    have tokens : (compile raw).segments.IsChain fun a b => a.isToken ∨ b.isToken := by
      rw [compile_eq_ofSegments]
      exact Reading.isChain_segments _
    have plain := h.plain_seam
    rw [List.isChain_iff_getElem] at tokens plain ⊢
    intro i hi text literal opened
    cases behind : (compile raw).segments[i + 1] with
    | literal other => simpa [literal, behind, Segment.isToken] using tokens i hi
    | token directive =>
      cases directive with
      | none => exact absurd opened (plain i hi text literal behind)
      | some directive => exact ⟨directive, rfl⟩

/-! ## What expanding writes -/

/-- Expanding adds no section sign of its own. -/
theorem displayMarker_not_mem_expand {segments : List Segment} {args : List String}
    {state : State} (written : state.Written)
    (hsegments : ∀ s ∈ segments, displayMarker ∉ s.chars)
    (hargs : ∀ value ∈ args, displayMarker ∉ value.toList) :
    displayMarker ∉ (expand state segments args).toList := by
  fun_induction expand state segments args with
  | case1 => simp
  | case2 state args text rest ih =>
    rw [String.toList_append, List.mem_append, not_or]
    refine ⟨hsegments _ List.mem_cons_self, ih (written.scanChars _) ?_ hargs⟩
    exact fun s mem => hsegments s (List.mem_cons_of_mem _ mem)
  | case3 => simp
  | case4 state rest value args ih =>
    rw [String.toList_append, List.mem_append, not_or]
    refine ⟨hargs value List.mem_cons_self, ih written ?_ ?_⟩
    · exact fun s mem => hsegments s (List.mem_cons_of_mem _ mem)
    · exact fun v mem => hargs v (List.mem_cons_of_mem _ mem)
  | case5 state directive rest value args ih =>
    simp only [String.toList_append, List.mem_append, not_or]
    have reset : displayMarker ∉ resetCode.toList := by decide
    have inside : displayMarker ∉ directive.toList := hsegments _ List.mem_cons_self
    refine ⟨⟨⟨⟨⟨reset, inside⟩, hargs value List.mem_cons_self⟩, reset⟩,
      written.displayMarker_not_mem⟩, ih written ?_ ?_⟩
    · exact fun s mem => hsegments s (List.mem_cons_of_mem _ mem)
    · exact fun v mem => hargs v (List.mem_cons_of_mem _ mem)

/-- Behind a literal that leaves a marker open, expanding goes on with no code. -/
theorem head_expand {state : State} {text : String} {rest : List Segment} {args : List String}
    (seam : ∀ s ∈ rest.head?, Seam (.literal text) s)
    (enough : rest.countP Segment.isToken ≤ args.length)
    (opened : text.toList.getLast? = some marker) :
    ∀ c ∈ (expand state rest args).toList.head?, CodeClass.of? c = none := by
  cases rest with
  | nil => simp [expand]
  | cons s rest =>
    obtain ⟨directive, rfl⟩ := seam s rfl text rfl opened
    cases args with
    | nil => simp [Segment.isToken] at enough
    | cons value args =>
      intro c hc
      have first : c = marker := by
        simpa [expand, resetCode, marker, eq_comm] using hc
      rw [first, CodeClass.of?_marker]

/-- A directive and its argument between resets leave a written state as it was. -/
theorem scanChars_directive {state : State} (written : state.Written) (inside rest : List Char) :
    state.scanChars
        (resetCode.toList ++ inside ++ resetCode.toList ++ state.restorePrefix.toList ++ rest) =
      state.scanChars rest := by
  have reset_first : ∀ c ∈ (resetCode.toList ++ (state.restorePrefix.toList ++ rest)).head?,
      CodeClass.of? c = none := by
    rintro c ⟨⟩
    exact CodeClass.of?_marker
  rw [List.append_assoc, List.append_assoc, State.scanChars_append _ fun _ => reset_first,
    State.scanChars_reset, State.scanChars_restorePrefix written]

/-- Scanning an expanded text leads where the literals in it do. The induction is on the
segments; the state is the one that the literals so far have led to. -/
theorem scanChars_expand {segments : List Segment} {args : List String} {state : State}
    (written : state.Written) (apart : Apart segments args) :
    state.scanChars (expand state segments args).toList = state.track segments := by
  induction segments generalizing state args with
  | nil => rfl
  | cons s rest ih =>
    obtain ⟨enough, plain, seams⟩ := apart
    rw [List.isChain_cons] at seams
    cases s with
    | literal text =>
      have apart : Apart rest args := ⟨enough, plain, seams.2⟩
      rw [expand, String.toList_append, State.scanChars_append]
      · exact ih (written.scanChars _) apart
      · exact head_expand seams.1 apart.enough
    | token directive =>
      rw [List.countP_cons_of_pos rfl] at enough
      cases args with
      | nil => simp at enough
      | cons value args =>
        have apart : Apart rest args :=
          ⟨Nat.le_of_succ_le_succ enough, fun use mem => plain use (List.mem_cons_of_mem _ mem),
            seams.2⟩
        have tail := ih written apart
        cases directive with
        | none =>
          have unmarked : marker ∉ value.toList := plain (none, value) List.mem_cons_self rfl
          rw [expand, String.toList_append, State.scanChars_plain _ unmarked]
          exact tail
        | some directive =>
          simp only [expand, String.toList_append]
          rw [List.append_assoc resetCode.toList, scanChars_directive written]
          exact tail

/-- Behind any first segments, the display is where the literals among them lead. -/
theorem displayAfter_eq {raw : String} {args : List String} (h : KeepsCodes raw args) (j : Nat) :
    (compile raw).displayAfter args j =
      .ok (State.track {} ((compile raw).segments.take j)).lower := by
  have first : (compile raw).segments.take j <+: (compile raw).segments := List.take_prefix _ _
  have apart := h.apart.of_prefix first
  have unmarked : displayMarker ∉ (expand {} ((compile raw).segments.take j) args).toList := by
    refine displayMarker_not_mem_expand .fresh ?_ h.args_unmarked
    intro s mem hs
    have mem := first.subset mem
    rw [compile_eq_ofSegments] at mem
    exact h.raw_unmarked (Reading.mem_of_mem_segments mem hs)
  have enough : ¬ args.length < (ofSegments ((compile raw).segments.take j)).tokenCount :=
    Nat.not_lt.2 apart.enough
  rw [displayAfter, render, if_neg enough]
  simp only [Except.map]
  rw [ofSegments, displayed_translate unmarked, State.scan, scanChars_expand .fresh apart]

/-- **Directives are contained.** Behind the first `j` segments of a message the display is in
the state that the literals among them set up, in lower case; so a token with a directive
leaves the display as it was. -/
theorem displayAfter_eq_tracked {raw : String} {args : List String} (h : KeepsCodes raw args)
    (j : Nat) :
    (compile raw).displayAfter args j =
        .ok (State.track {} ((compile raw).segments.take j)).lower ∧
      ∀ directive, (compile raw).segments[j]? = some (.token (some directive)) →
        (compile raw).displayAfter args (j + 1) = (compile raw).displayAfter args j := by
  refine ⟨displayAfter_eq h j, fun directive hj => ?_⟩
  rw [displayAfter_eq h, displayAfter_eq h, List.take_add_one, hj, Option.toList_some,
    State.track_concat_token]

/-- An argument that brings codes of its own, ends with a marker, and comes with a directive
behind a literal that ends with one. -/
theorem displayAfter_open_marker :
    KeepsCodes "&C&l&\x7b&e\x7d to &L\x7b\x7d" ["&kspawn&", "Steve"] ∧
      (compile "&C&l&\x7b&e\x7d to &L\x7b\x7d").displayAfter ["&kspawn&", "Steve"] 2 =
        .ok { color := some "&c", formats := ["&l"] } := by
  have segments : (compile "&C&l&\x7b&e\x7d to &L\x7b\x7d").segments =
      [.literal "&C&l&", .token (some "&e"), .literal " to &L", .token none] := by decide
  have keeps : KeepsCodes "&C&l&\x7b&e\x7d to &L\x7b\x7d" ["&kspawn&", "Steve"] := by
    refine ⟨by decide, by decide, by decide, by decide, ?_⟩
    rw [segments]
    refine .cons_cons ?_ (.cons_cons ?_ (.cons_cons ?_ (.singleton _)))
    · rintro text ⟨⟩ ⟨⟩
    · rintro text ⟨⟩
    · rintro text ⟨⟩ -
      decide
  refine ⟨keeps, ?_⟩
  rw [(displayAfter_eq_tracked keeps 1).2 "&e" (by rw [segments]; rfl),
    (displayAfter_eq_tracked keeps 1).1, segments]
  decide

end Template
end InteractiveMobs
