import InteractiveMobs.Proofs.Template.Containment
import Mathlib.Data.List.ReduceOption

/-!
# What a rendered message is made of

Expanding a template walks along its segments with a state and a stock of arguments. Here is what
that comes to, segment by segment: a token takes the argument of its own number among the tokens,
and what is written behind a directive restores the state of the literals in front of it
(`Segment.filling?`). Segments are filled as far as the arguments reach (`IsReach`), which in a
compiled message is to its end. Main statement: `Template.render_eq_fillings`.
-/

namespace InteractiveMobs
set_option autoImplicit false
open Formatting

namespace Segment

/-- The number of the argument that a segment behind others takes, if it takes one. -/
def argument? (before : List Segment) : Segment → Option Nat
  | literal _ => none
  | token _ => some (before.countP isToken)

/-- What stands in a message for a segment behind others; nothing if it lacks its argument. -/
def filling? (before : List Segment) (args : List String) : Segment → Option String
  | literal text => some text
  | token directive => args[before.countP isToken]?.map fun value =>
    match directive with
    | none => value
    | some directive =>
      resetCode ++ directive ++ value ++ resetCode ++ (State.track {} before).restorePrefix

end Segment

namespace Template

/-- How far `n` arguments reach: the longest beginning of the segments with so many tokens at
most. -/
structure IsReach (segments : List Segment) (n : Nat) (shown : List Segment) : Prop where
  first : shown <+: segments
  enough : shown.countP Segment.isToken ≤ n
  longest : ∀ other, other <+: segments → other.countP Segment.isToken ≤ n → other <+: shown

/-- The segments in front of the first token that lacks its argument. -/
def reach : Nat → List Segment → List Segment
  | _, [] => []
  | n, .literal text :: rest => .literal text :: reach n rest
  | 0, .token _ :: _ => []
  | n + 1, .token directive :: rest => .token directive :: reach n rest

theorem IsReach.nil (n : Nat) : IsReach [] n [] where
  first := List.nil_prefix
  enough := Nat.zero_le n
  longest _ within _ := within

theorem IsReach.cons {segment : Segment} {segments shown : List Segment} {n m : Nat}
    (h : IsReach segments n shown)
    (count : m = n + if segment.isToken then 1 else 0) :
    IsReach (segment :: segments) m (segment :: shown) where
  first := (List.prefix_cons_inj segment).2 h.first
  enough := by
    have enough := h.enough
    rw [List.countP_cons]
    omega
  longest := by
    intro other within few
    cases other with
    | nil => exact List.nil_prefix
    | cons head other =>
      obtain ⟨rfl, inside⟩ := List.cons_prefix_cons.1 within
      rw [List.countP_cons] at few
      exact (List.prefix_cons_inj head).2 (h.longest other inside (by omega))

theorem isReach_reach (segments : List Segment) (n : Nat) :
    IsReach segments n (reach n segments) := by
  fun_induction reach n segments with
  | case1 n => exact .nil n
  | case2 n text rest ih => exact ih.cons rfl
  | case3 directive rest =>
    refine ⟨List.nil_prefix, Nat.le_refl 0, fun other within few => ?_⟩
    cases other with
    | nil => exact List.nil_prefix
    | cons head other =>
      obtain ⟨rfl, -⟩ := List.cons_prefix_cons.1 within
      simp [Segment.isToken] at few
  | case4 n directive rest ih => exact ih.cons rfl

/-- With arguments enough, everything is reached. -/
theorem IsReach.of_enough {segments : List Segment} {n : Nat}
    (enough : segments.countP Segment.isToken ≤ n) : IsReach segments n segments :=
  ⟨List.prefix_refl _, enough, fun _ within _ => within⟩

/-- Expanding stops where the arguments end. -/
theorem expand_reach (state : State) (segments : List Segment) (args : List String) :
    expand state segments args = expand state (reach args.length segments) args := by
  fun_induction expand state segments args with
  | case1 => rfl
  | case2 state args text rest ih => rw [reach, expand, ih]
  | case3 => rfl
  | case4 state rest value args ih => rw [List.length_cons, reach, expand, ih]
  | case5 state directive rest value args ih => rw [List.length_cons, reach, expand, ih]

/-- Arguments for which there is no token do not matter. -/
theorem expand_take (state : State) (segments : List Segment) (args : List String) :
    expand state segments args =
      expand state segments (args.take (segments.countP Segment.isToken)) := by
  fun_induction expand state segments args with
  | case1 => rfl
  | case2 state args text rest ih =>
    rw [List.countP_cons_of_neg (by simp [Segment.isToken]), expand, ih]
  | case3 => rw [List.take_nil, expand]
  | case4 state rest value args ih =>
    rw [List.countP_cons_of_pos rfl, List.take_succ_cons, expand, ih]
  | case5 state directive rest value args ih =>
    rw [List.countP_cons_of_pos rfl, List.take_succ_cons, expand, ih]

/-- Behind other segments, expanding writes one filling after the other. The induction is on the
segments; those in front of them have set up the state and used up the first arguments. -/
theorem expand_eq_fillings {segments : List Segment} (before : List Segment) {args : List String}
    (enough : (before ++ segments).countP Segment.isToken ≤ args.length) :
    ∃ fillings, (segments.mapIdx fun i segment =>
        segment.filling? (before ++ segments.take i) args) = fillings.map some ∧
      expand (State.track {} before) segments (args.drop (before.countP Segment.isToken)) =
        String.join fillings := by
  induction segments generalizing before with
  | nil => exact ⟨[], rfl, rfl⟩
  | cons segment rest ih =>
    have split : before ++ segment :: rest = (before ++ [segment]) ++ rest := by simp
    obtain ⟨fillings, each, text⟩ := ih (before ++ [segment]) (split ▸ enough)
    have others : (rest.mapIdx fun i other =>
        other.filling? (before ++ (segment :: rest).take (i + 1)) args) = fillings.map some := by
      simpa using each
    rw [State.track_append, List.countP_append, List.countP_singleton] at text
    rw [List.mapIdx_cons, others]
    cases segment with
    | literal literal =>
      refine ⟨literal :: fillings, rfl, ?_⟩
      rw [expand, String.join_cons, ← text]
      rfl
    | token directive =>
      have there : before.countP Segment.isToken < args.length := by
        rw [List.countP_append, List.countP_cons_of_pos rfl] at enough
        omega
      have argument := List.getElem?_eq_getElem there
      rw [List.drop_eq_getElem_cons there]
      cases directive with
      | none =>
        refine ⟨args[before.countP Segment.isToken] :: fillings, ?_, ?_⟩
        · simp [Segment.filling?, argument]
        · rw [expand, String.join_cons, ← text]
          rfl
      | some directive =>
        refine ⟨(resetCode ++ directive ++ args[before.countP Segment.isToken] ++ resetCode ++
          (State.track {} before).restorePrefix) :: fillings, ?_, ?_⟩
        · simp [Segment.filling?, argument]
        · rw [expand, String.join_cons, ← text]
          rfl

/-- Behind other segments, the tokens take the next arguments, one after the other. -/
theorem arguments_eq (before segments : List Segment) :
    (segments.mapIdx fun i segment =>
        segment.argument? (before ++ segments.take i)).reduceOption =
      List.range' (before.countP Segment.isToken) (segments.countP Segment.isToken) := by
  induction segments generalizing before with
  | nil => rfl
  | cons segment rest ih =>
    have later := ih (before ++ [segment])
    have others : (rest.mapIdx fun i other =>
        other.argument? (before ++ (segment :: rest).take (i + 1))) =
          rest.mapIdx fun i other => other.argument? ((before ++ [segment]) ++ rest.take i) := by
      simp
    rw [List.countP_append, List.countP_singleton] at later
    rw [List.mapIdx_cons, others]
    cases segment with
    | literal text => exact later
    | token directive =>
      have here : Segment.argument? (before ++ (.token directive :: rest).take 0)
          (.token directive) = some (before.countP Segment.isToken) := by
        simp [Segment.argument?]
      rw [here, List.reduceOption_cons_of_some, later, List.countP_cons_of_pos rfl]
      rfl

/-- A message of segments that ask for one argument each is rendered with the arguments it asks
for. -/
theorem render_ofSegments_take (segments : List Segment) {args others : List String}
    (enough : (ofSegments segments).tokenCount ≤ args.length)
    (same : others.take (ofSegments segments).tokenCount =
      args.take (ofSegments segments).tokenCount) :
    (ofSegments segments).render others = (ofSegments segments).render args := by
  have lengths := congrArg List.length same
  rw [List.length_take, List.length_take] at lengths
  have few : ¬ args.length < (ofSegments segments).tokenCount := Nat.not_lt.2 enough
  have few' : ¬ others.length < (ofSegments segments).tokenCount := by omega
  rw [render, if_neg few', render, if_neg few, expand_take _ _ others, expand_take _ _ args]
  exact congrArg (fun taken => Except.ok (translate (expand {} segments taken))) same

/-- **A rendered message is its fillings, one after the other.** For every template, wherever it
comes from: rendering fails exactly if there are fewer arguments than it asks for. Else the message
is the translation of what stands for its segments, as far as the arguments reach. In a compiled
message they reach to the end, each argument asked for is taken once and in order, and the others do
not matter. -/
theorem render_eq_fillings (template : Template) (args : List String) :
    (∀ error, template.render args = .error error ↔ args.length < template.tokenCount ∧
      error = .argumentCount template.tokenCount args.length) ∧
    (template.tokenCount ≤ args.length → ∃ shown fillings,
      IsReach template.segments args.length shown ∧
      (shown.mapIdx fun i segment => segment.filling? (shown.take i) args) =
        fillings.map some ∧
      template.render args = .ok (translate (String.join fillings))) ∧
    ∀ raw, template = compile raw → template.tokenCount ≤ args.length →
      IsReach template.segments args.length template.segments ∧
      (template.segments.mapIdx fun i segment =>
        segment.argument? (template.segments.take i)).reduceOption =
          List.range template.tokenCount ∧
      ∀ others, others.take template.tokenCount = args.take template.tokenCount →
        template.render others = template.render args := by
  refine ⟨fun error => render_eq_error_iff, fun enough => ?_, ?_⟩
  · have shown := isReach_reach template.segments args.length
    obtain ⟨fillings, each, text⟩ := expand_eq_fillings [] shown.enough
    refine ⟨_, fillings, shown, each, ?_⟩
    rw [render, if_neg (Nat.not_lt.2 enough), expand_reach, ← text]
    rfl
  · rintro raw rfl enough
    rw [compile_eq_ofSegments] at enough ⊢
    refine ⟨.of_enough enough, ?_, fun others same => render_ofSegments_take _ enough same⟩
    rw [List.range_eq_range']
    exact arguments_eq [] _

/-- A template that asks for fewer arguments than it has tokens. -/
def scarce : Template where
  segments := [.literal "&a&L", .token (some ""), .literal "&nto&", .token (some "&e"),
    .literal "!", .token none, .literal "?"]
  tokenCount := 1

/-- It is shown up to the token that lacks its argument; a compiled message leaves out only what it
does not ask for. -/
theorem render_scarce :
    (∃ shown fillings, IsReach scarce.segments 2 shown ∧ shown.length = 5 ∧
      scarce.render ["x", "y"] = .ok (translate (String.join fillings))) ∧
    scarce.render ["x", "y"] =
      .ok ("\u00A7a\u00A7l\u00A7rx\u00A7r\u00A7a\u00A7l\u00A7nto&" ++
        "\u00A7r\u00A7ey\u00A7r\u00A7a\u00A7l\u00A7n!") ∧
    (compile "\x7b\x7d of \x7b&e\x7d").render ["1", "2", "3"] =
      (compile "\x7b\x7d of \x7b&e\x7d").render ["1", "2"] := by
  have enough : (compile "\x7b\x7d of \x7b&e\x7d").tokenCount ≤ 2 := by decide
  obtain ⟨shown, fillings, reach, -, text⟩ :=
    (render_eq_fillings scarce ["x", "y"]).2.1 (by decide)
  have five : IsReach scarce.segments 2 (scarce.segments.take 5) := isReach_reach scarce.segments 2
  refine ⟨⟨shown, fillings, reach, ?_, text⟩, by decide, ?_⟩
  · exact Nat.le_antisymm (five.longest _ reach.first reach.enough).length_le
      (reach.longest _ five.first five.enough).length_le
  · exact ((render_eq_fillings _ ["1", "2"]).2.2 _ rfl enough).2.2 _ (by decide)

end Template
end InteractiveMobs
