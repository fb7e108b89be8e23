import InteractiveMobs.Formatting.State
import Mathlib

/-!
# Scanning for codes

How `State.scanChars` goes through text: `scanChars_append` cuts a text wherever no code lies
across the cut. A state that scanning leads to is `Written`: its codes are codes as they stand
in text, and no two of its formats are the same up to case. Such a state is what scanning its
own restore prefix gives (`scanChars_restorePrefix`).
-/

namespace InteractiveMobs.Formatting
set_option autoImplicit false

/-- The code of a character as it stands in template text. -/
def written (code : Char) : String := String.ofList [marker, code]

@[simp] theorem toList_written (code : Char) : (written code).toList = [marker, code] :=
  String.toList_ofList

@[simp] theorem CodeClass.of?_toLower (code : Char) : of? code.toLower = of? code := by
  unfold of?
  rw [Char.toLower_toLower_eq_toLower]

/-- The marker is no code itself, so a code never starts inside another one. -/
theorem CodeClass.of?_marker : of? marker = none := by decide

namespace State

theorem scanChars_code (state : State) {code : Char} {kind : CodeClass}
    (h : CodeClass.of? code = some kind) (rest : List Char) :
    state.scanChars (marker :: code :: rest) =
      (state.apply (written code) kind).scanChars rest := by
  simp only [scanChars, if_true, h]
  rfl

theorem scanChars_lone (state : State) {rest : List Char}
    (h : ∀ code ∈ rest.head?, CodeClass.of? code = none) :
    state.scanChars (marker :: rest) = state.scanChars rest := by
  cases rest with
  | nil => rfl
  | cons code rest => simp only [scanChars, if_true, h code rfl]

theorem scanChars_other (state : State) {c : Char} (h : c ≠ marker) (rest : List Char) :
    state.scanChars (c :: rest) = state.scanChars rest := by
  cases rest with
  | nil => rfl
  | cons code rest => simp only [scanChars, if_neg h]

/-- Text without the marker has no codes. -/
theorem scanChars_plain (state : State) {text : List Char} (h : marker ∉ text)
    (rest : List Char) : state.scanChars (text ++ rest) = state.scanChars rest := by
  induction text with
  | nil => rfl
  | cons c text ih =>
    rw [List.mem_cons, not_or] at h
    rw [List.cons_append, scanChars_other _ (Ne.symm h.1), ih h.2]

/-- Two texts are scanned in turn unless a code lies across the cut between them. -/
theorem scanChars_append (state : State) {a b : List Char}
    (h : a.getLast? = some marker → ∀ code ∈ b.head?, CodeClass.of? code = none) :
    state.scanChars (a ++ b) = (state.scanChars a).scanChars b := by
  fun_induction scanChars state a with
  | case1 state => rfl
  | case2 state c =>
    by_cases hc : c = marker
    · subst hc
      exact scanChars_lone _ (h rfl)
    · exact scanChars_other _ hc b
  | case3 state code rest kind hkind ih =>
    rw [List.cons_append, List.cons_append, scanChars_code _ hkind]
    refine ih fun last => h ?_
    rw [List.getLast?_cons, List.getLast?_cons, last]
    rfl
  | case4 state code rest hkind ih =>
    rw [List.cons_append, scanChars_lone _ (by simpa using hkind)]
    exact ih (by simpa using h)
  | case5 state c code rest hc ih =>
    rw [List.cons_append, scanChars_other _ hc]
    exact ih (by simpa using h)

/-- A code never makes a format stand twice, whatever code it is. -/
theorem distinct_apply {state : State}
    (h : state.formats.Pairwise fun a b => sameCode a b = false) (code : String)
    (kind : CodeClass) :
    (state.apply code kind).formats.Pairwise fun a b => sameCode a b = false := by
  cases kind with
  | color => exact .nil
  | reset => exact .nil
  | format =>
    simp only [State.apply]
    split
    next => exact h
    next new =>
      simp only [List.any_eq_true, not_exists, not_and, Bool.not_eq_true] at new
      rw [List.pairwise_append]
      refine ⟨h, List.pairwise_singleton .., ?_⟩
      intro other mem _ last
      rw [List.mem_singleton.1 last]
      exact new other mem

/-- What scanning leads to. -/
structure Written (state : State) : Prop where
  color : ∀ code ∈ state.color, ∃ c, code = written c ∧ CodeClass.of? c = some .color
  formats : ∀ code ∈ state.formats, ∃ c, code = written c ∧ CodeClass.of? c = some .format
  distinct : state.formats.Pairwise fun a b => sameCode a b = false

theorem Written.fresh : Written {} where
  color := by simp
  formats := by simp
  distinct := .nil

theorem Written.apply {state : State} (h : Written state) {code : Char} {kind : CodeClass}
    (hcode : CodeClass.of? code = some kind) : Written (state.apply (written code) kind) := by
  cases kind with
  | color =>
    refine ⟨?_, by simp [State.apply], .nil⟩
    rintro _ ⟨⟩
    exact ⟨code, rfl, hcode⟩
  | reset => exact .fresh
  | format =>
    refine ⟨?_, ?_, distinct_apply h.distinct _ _⟩
    · unfold State.apply
      dsimp only
      split <;> exact h.color
    · intro other mem
      simp only [State.apply] at mem
      split at mem
      next => exact h.formats other mem
      next =>
        rcases List.mem_append.1 mem with mem | mem
        · exact h.formats other mem
        · exact ⟨code, List.mem_singleton.1 mem, hcode⟩

theorem Written.scanChars {state : State} (h : Written state) (text : List Char) :
    Written (state.scanChars text) := by
  fun_induction State.scanChars state text with
  | case1 => exact h
  | case2 => exact h
  | case3 state code rest kind hkind ih => exact ih (h.apply hkind)
  | case4 state code rest hkind ih => exact ih h
  | case5 state c code rest hc ih => exact ih h

/-- Scanning formats adds them in order, as long as they are new. -/
theorem scanChars_formats (state : State) (fs : List String)
    (hfs : ∀ code ∈ fs, ∃ c, code = written c ∧ CodeClass.of? c = some .format)
    (new : (state.formats ++ fs).Pairwise fun a b => sameCode a b = false) (rest : List Char) :
    state.scanChars (fs.flatMap String.toList ++ rest) =
      State.scanChars { state with formats := state.formats ++ fs } rest := by
  induction fs generalizing state with
  | nil => simp
  | cons code fs ih =>
    obtain ⟨c, rfl, hc⟩ := hfs code List.mem_cons_self
    have fresh : state.formats.any (sameCode · (written c)) = false := by
      rw [List.any_eq_false]
      intro other mem
      rw [(List.pairwise_append.1 new).2.2 other mem _ List.mem_cons_self]
      exact Bool.false_ne_true
    have added : state.apply (written c) .format =
        { state with formats := state.formats ++ [written c] } := by
      simp [State.apply, fresh]
    rw [List.flatMap_cons, toList_written, List.append_assoc, List.cons_append, List.cons_append,
      List.nil_append, scanChars_code _ hc, added, ih _ fun code mem =>
        hfs code (List.mem_cons_of_mem _ mem)]
    · simp
    · simpa using new

theorem toList_restorePrefix (state : State) :
    state.restorePrefix.toList =
      (state.color.getD "").toList ++ state.formats.flatMap String.toList := by
  rw [restorePrefix, String.toList_append, String.toList_join]

/-- The restore prefix of a written state brings it back. -/
theorem scanChars_restorePrefix {state : State} (h : Written state) (rest : List Char) :
    State.scanChars {} (state.restorePrefix.toList ++ rest) = state.scanChars rest := by
  obtain ⟨color, fs⟩ := state
  rw [toList_restorePrefix, List.append_assoc]
  cases color with
  | none => simpa using scanChars_formats {} fs h.formats h.distinct rest
  | some color =>
    obtain ⟨c, rfl, hc⟩ := h.color color rfl
    rw [Option.getD_some, toList_written, List.cons_append, List.cons_append, List.nil_append,
      scanChars_code _ hc]
    exact scanChars_formats { color := some (written c), formats := [] } fs h.formats h.distinct
      rest

/-- A restore prefix has markers and code characters and nothing else. -/
theorem Written.of_mem_restorePrefix {state : State} (h : Written state) {x : Char}
    (hx : x ∈ state.restorePrefix.toList) : x = marker ∨ (CodeClass.of? x).isSome := by
  have of_written : ∀ c kind, CodeClass.of? c = some kind → x ∈ (written c).toList →
      x = marker ∨ (CodeClass.of? x).isSome := by
    intro c kind hc mem
    rw [toList_written, List.mem_cons, List.mem_singleton] at mem
    rcases mem with rfl | rfl
    · exact .inl rfl
    · exact .inr (by rw [hc]; rfl)
  rw [toList_restorePrefix, List.mem_append, List.mem_flatMap] at hx
  rcases hx with hx | ⟨code, mem, hx⟩
  · cases hcolor : state.color with
    | none => simp [hcolor] at hx
    | some color =>
      obtain ⟨c, rfl, hc⟩ := h.color color hcolor
      exact of_written c _ hc (by simpa [hcolor] using hx)
  · obtain ⟨c, rfl, hc⟩ := h.formats code mem
    exact of_written c _ hc hx

theorem scanChars_reset (state : State) (rest : List Char) :
    state.scanChars (resetCode.toList ++ rest) = State.scanChars {} rest := by
  have reset : CodeClass.of? 'r' = some .reset := by decide
  exact scanChars_code state reset rest

end State
end InteractiveMobs.Formatting
