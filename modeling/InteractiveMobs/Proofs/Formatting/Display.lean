import InteractiveMobs.Proofs.Formatting.Scan

/-!
# The display state

The color and the formats that the display has in effect behind a text, which it takes from the
codes in it: the pairs of a section sign and a code character. For text that brings no section
sign of its own, `displayChars_translate` says that this is the state that scanning tracks, with
its codes in lower case.
-/

namespace InteractiveMobs.Formatting
set_option autoImplicit false

/-- A code in lower case. -/
def lowerCode (code : String) : String := String.ofList (code.toList.map Char.toLower)

theorem lowerCode_written (code : Char) : lowerCode (written code) = written code.toLower := by
  rw [lowerCode, toList_written]
  rfl

theorem lowerCode_eq_iff {a b : String} : lowerCode a = lowerCode b ↔ sameCode a b = true := by
  rw [lowerCode, lowerCode, String.ofList_inj, sameCode, beq_iff_eq]

theorem CodeClass.of?_displayMarker : of? displayMarker = none := by decide

namespace State

/-- The state with its codes in lower case. -/
def lower (state : State) : State where
  color := state.color.map lowerCode
  formats := state.formats.map lowerCode

/-- What the display does at one of its codes: a color replaces the color and clears the
formats, a format is added if it is not active, and a reset clears all. Codes are kept as
template text has them. -/
def displayCode (state : State) (code : Char) : State :=
  match CodeClass.of? code with
  | some .color => { color := some (written code), formats := [] }
  | some .format =>
    if written code ∈ state.formats then state
    else { state with formats := state.formats ++ [written code] }
  | some .reset => {}
  | none => state

theorem Written.displayMarker_not_mem {state : State} (h : Written state) :
    displayMarker ∉ state.restorePrefix.toList := by
  intro mem
  rcases h.of_mem_restorePrefix mem with same | code
  · exact absurd same (by decide)
  · simp [CodeClass.of?_displayMarker] at code

/-- The state of the display after the characters. -/
def displayChars (state : State) : List Char → State
  | [] => state
  | [_] => state
  | c :: code :: rest =>
    if c = displayMarker ∧ (CodeClass.of? code).isSome then
      (state.displayCode code).displayChars rest
    else state.displayChars (code :: rest)

theorem displayChars_code (state : State) {code : Char} (h : (CodeClass.of? code).isSome)
    (rest : List Char) :
    state.displayChars (displayMarker :: code :: rest) =
      (state.displayCode code).displayChars rest := by
  rw [displayChars, if_pos ⟨rfl, h⟩]

theorem displayChars_other (state : State) {c : Char} (h : c ≠ displayMarker)
    (rest : List Char) : state.displayChars (c :: rest) = state.displayChars rest := by
  cases rest with
  | nil => rfl
  | cons code rest => rw [displayChars, if_neg fun marked => h marked.1]

theorem displayChars_lone (state : State) {code : Char} (h : CodeClass.of? code = none)
    (rest : List Char) :
    state.displayChars (displayMarker :: code :: rest) = state.displayChars (code :: rest) := by
  rw [displayChars, if_neg (by simp [h])]

/-- The display forgets the case in which a code is written, and nothing else. -/
theorem lower_apply (state : State) {code : Char} {kind : CodeClass}
    (h : CodeClass.of? code = some kind) :
    (state.apply (written code) kind).lower = state.lower.displayCode code.toLower := by
  rw [displayCode, CodeClass.of?_toLower, h]
  cases kind with
  | color => simp [State.apply, lower, lowerCode_written]
  | reset => rfl
  | format =>
    have active : written code.toLower ∈ state.lower.formats ↔
        state.formats.any (sameCode · (written code)) = true := by
      simp [lower, ← lowerCode_written, lowerCode_eq_iff]
    by_cases old : state.formats.any (sameCode · (written code)) = true
    · simp only [State.apply, old, if_true, active]
    · simp only [State.apply, old, active]
      simp [lower, lowerCode_written]

/-- Translated text leads the display where scanning it leads the tracked state. -/
theorem displayChars_translate (state : State) {text : List Char} (h : displayMarker ∉ text) :
    state.lower.displayChars (translateChars marker text) = (state.scanChars text).lower := by
  fun_induction translateChars marker text generalizing state with
  | case1 => rfl
  | case2 => rfl
  | case3 c code rest hcode ih =>
    obtain ⟨rfl, translatable⟩ := hcode
    have unmarked : displayMarker ∉ rest := fun mem => h (by simp [mem])
    cases tracked : CodeClass.of? code with
    | some kind =>
      have known : (CodeClass.of? code.toLower).isSome := by simp [tracked]
      rw [displayChars_code _ known, ← lower_apply _ tracked, ih _ unmarked,
        scanChars_code _ tracked]
    | none =>
      -- only `x` is translated and not tracked
      have x : code.toLower = 'x' := by simpa [isTranslatable, tracked] using translatable
      have lone : ∀ other ∈ (code :: rest).head?, CodeClass.of? other = none := by
        simpa using tracked
      have unmarked_code : code ≠ marker := by
        rintro rfl
        simp [marker] at x
      rw [displayChars_lone _ (by simpa using tracked), x, displayChars_other _ (by decide),
        ih _ unmarked, scanChars_lone _ lone, scanChars_other _ unmarked_code]
  | case4 c code rest hcode ih =>
    rw [List.mem_cons, not_or] at h
    rw [displayChars_other _ (Ne.symm h.1), ih _ h.2]
    by_cases hc : c = marker
    · subst hc
      have untracked : CodeClass.of? code = none := by
        by_contra tracked
        exact hcode ⟨rfl, by simp [isTranslatable, Option.isSome_iff_ne_none, tracked]⟩
      rw [scanChars_lone _ (by simpa using untracked)]
    · rw [scanChars_other _ hc]

end State

/-- The state of the display behind a text. -/
def displayed (text : String) : State := State.displayChars {} text.toList

theorem displayed_translate {text : String} (h : displayMarker ∉ text.toList) :
    displayed (translate text) = (State.scan {} text).lower := by
  rw [displayed, translate, translateWith, String.toList_ofList]
  exact State.displayChars_translate {} h

end InteractiveMobs.Formatting
