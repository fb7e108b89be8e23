import InteractiveMobs.Proofs.Formatting.Codes
import InteractiveMobs.Proofs.Formatting.Display
import InteractiveMobs.Proofs.Formatting.Visible

/-!
# Scanning and translation

Two passes look for the codes in a text, each in its own way: scanning sorts a character into its
class, translation goes by a table of characters, and only translation takes an `x` along. They see
the same codes nevertheless (`scan_eq_translated`): what the display makes of a translated text, and
what scanning makes of it once it is shown with markers again, is what scanning makes of the text
itself, in lower case.
-/

namespace InteractiveMobs.Formatting
set_option autoImplicit false

/-! ## The table of translation -/

/-- Every code character that the display knows, in both cases. -/
def codeTable : String := "0123456789AaBbCcDdEeFfKkLlMmNnOoRrXx"

theorem isTranslatable_of_lt {code : Char} (h : 'z' < code) : isTranslatable code = false := by
  have above {c : Char} (hc : c ≤ 'z') : ¬ code ≤ c := not_le.2 (hc.trans_lt h)
  have other {c : Char} (hc : c ≤ 'z') : code ≠ c := fun same => above hc same.le
  have same : code.toLower = code := by
    refine Char.toLower_eq_of_not_isUpper fun upper => ?_
    exact above (c := 'Z') (by decide) (of_decide_eq_true upper).2
  simp [isTranslatable, CodeClass.of?, same, above (c := '9') (by decide),
    above (c := 'f') (by decide), above (c := 'o') (by decide), other (c := 'r') (by decide),
    other (c := 'x') (by decide)]

/-- The codes that the display knows are those of the table. -/
theorem isTranslatable_eq_contains (code : Char) :
    isTranslatable code = codeTable.toList.contains code := by
  by_cases h : 'z' < code
  · have listed : codeTable.toList.all (· ≤ 'z') = true := by decide +kernel
    have unlisted : code ∉ codeTable.toList := fun mem =>
      not_le.2 h (of_decide_eq_true (List.all_eq_true.1 listed code mem))
    rw [isTranslatable_of_lt h]
    simpa using unlisted
  · have small : code.toNat < 128 := by
      have le : code.toNat ≤ 'z'.toNat := not_lt.1 h
      exact le.trans_lt (by decide)
    have each : ∀ n : Fin 128,
        isTranslatable (Char.ofNat n) = codeTable.toList.contains (Char.ofNat n) := by
      decide +kernel
    simpa using each ⟨code.toNat, small⟩

/-- The codes in template text that translation is about. -/
def translatedCodes (text : List Char) : List Char :=
  codesBehind marker (codeTable.toList.contains ·) text

theorem translatedCodes_eq (text : List Char) :
    translatedCodes text = codesBehind marker isTranslatable text := by
  rw [translatedCodes, ← funext isTranslatable_eq_contains]

@[simp] theorem isTranslatable_toLower (code : Char) :
    isTranslatable code.toLower = isTranslatable code := by
  rw [isTranslatable, isTranslatable, CodeClass.of?_toLower, Char.toLower_toLower_eq_toLower]

@[simp] theorem isTracked_toLower (code : Char) : isTracked code.toLower = isTracked code := by
  rw [isTracked, isTracked, CodeClass.of?_toLower]

/-- Scanning takes what translation takes, but for an `x`. -/
theorem isTracked_eq (code : Char) :
    isTracked code = (isTranslatable code && code.toLower != 'x') := by
  rw [isTranslatable, ← isTracked, ← isTracked_toLower]
  cases x : code.toLower == 'x' with
  | true =>
    rw [beq_iff_eq.1 x]
    decide
  | false => simp [bne, x]

/-- The codes of a text that scanning is about are those that translation is about, but for each
`x`. -/
theorem trackedCodes_eq_filter (text : List Char) :
    trackedCodes text = (translatedCodes text).filter (·.toLower != 'x') := by
  rw [translatedCodes_eq, trackedCodes, codesBehind, codesBehind, List.filter_map,
    List.filter_filter]
  congr 2
  funext pair
  rw [isTracked_eq, Function.comp, Bool.and_comm (isTranslatable _), Bool.and_left_comm]

/-! ## Codes of translated text -/

theorem translatedCodes_code {code : Char} (h : isTranslatable code) (rest : List Char) :
    translatedCodes (marker :: code :: rest) = code :: translatedCodes rest := by
  rw [translatedCodes_eq, translatedCodes_eq, codesBehind_code h isTranslatable_marker]

theorem translatedCodes_other {c : Char} {text : List Char} (h : codeAt (c :: text) 0 = false) :
    translatedCodes (c :: text) = translatedCodes text := by
  rw [translatedCodes_eq, translatedCodes_eq]
  by_cases hc : c = marker
  · subst hc
    refine codesBehind_lone fun code first => ?_
    have here : text[0]? = some code := by rw [← List.head?_eq_getElem?]; exact first
    simpa [codeAt, here] using h
  · exact codesBehind_other hc _

/-- The display codes of a translated text are its codes in lower case. -/
theorem codesBehind_translateChars {text : List Char} (h : displayMarker ∉ text) :
    codesBehind displayMarker isTranslatable (translateChars marker text) =
      (translatedCodes text).map Char.toLower := by
  induction text, h using unmarked_induction with
  | nil => rfl
  | code code rest unmarked _ translatable ih =>
    rw [translateChars_code translatable,
      codesBehind_code (by simpa using translatable) isTranslatable_displayMarker, ih,
      translatedCodes_code translatable, List.map_cons]
  | other c rest unmarked _ single plain ih =>
    rw [translateChars_other single, codesBehind_other plain, ih, translatedCodes_other single]

/-- A text that is translated and has its codes marked as in template text again. -/
def shownAgain (text : List Char) : List Char :=
  (translateChars marker text).map fun c => if c = displayMarker then marker else c

theorem toList_untranslate_translate (text : String) :
    (untranslate (translate text)).toList = shownAgain text.toList := by
  simp [untranslate, translate, translateWith, shownAgain]

theorem shownAgain_code {code : Char} (h : isTranslatable code) (rest : List Char) :
    shownAgain (marker :: code :: rest) = marker :: code.toLower :: shownAgain rest := by
  have unmarked : code.toLower ≠ displayMarker :=
    ne_of_isTranslatable (by simpa using h) isTranslatable_displayMarker
  rw [shownAgain, translateChars_code h, List.map_cons, List.map_cons, if_pos rfl,
    if_neg unmarked]
  rfl

theorem shownAgain_other {c : Char} {text : List Char} (h : codeAt (c :: text) 0 = false)
    (unmarked : c ≠ displayMarker) : shownAgain (c :: text) = c :: shownAgain text := by
  rw [shownAgain, translateChars_other h, List.map_cons, if_neg unmarked]
  rfl

theorem head?_shownAgain {text : List Char} (h : displayMarker ∉ text) :
    (shownAgain text).head? = text.head? := by
  cases text, h using unmarked_induction with
  | nil => rfl
  | code code rest unmarked _ translatable _ => rw [shownAgain_code translatable]; rfl
  | other c rest unmarked _ single plain _ => rw [shownAgain_other single plain]; rfl

/-- No code begins where a text is shown again, but where one began. -/
theorem codeAt_shownAgain {text : List Char} (h : displayMarker ∉ text) (c : Char) :
    codeAt (c :: shownAgain text) 0 = codeAt (c :: text) 0 := by
  simp [codeAt, ← List.head?_eq_getElem?, head?_shownAgain h]

/-- The codes of a text that is shown again are its codes in lower case. -/
theorem translatedCodes_shownAgain {text : List Char} (h : displayMarker ∉ text) :
    translatedCodes (shownAgain text) = (translatedCodes text).map Char.toLower := by
  induction text, h using unmarked_induction with
  | nil => rfl
  | code code rest unmarked _ translatable ih =>
    rw [shownAgain_code translatable, translatedCodes_code (by simpa using translatable),
      translatedCodes_code translatable, ih, List.map_cons]
  | other c rest unmarked _ single plain ih =>
    have single' : codeAt (c :: shownAgain rest) 0 = false :=
      (codeAt_shownAgain unmarked c).trans single
    rw [shownAgain_other single plain, translatedCodes_other single', ih,
      translatedCodes_other single]

theorem trackedCodes_shownAgain {text : List Char} (h : displayMarker ∉ text) :
    trackedCodes (shownAgain text) = (trackedCodes text).map Char.toLower := by
  rw [trackedCodes_eq_filter, translatedCodes_shownAgain h, List.filter_map, trackedCodes_eq_filter]
  congr 2
  funext code
  rw [Function.comp, Char.toLower_toLower_eq_toLower]

/-! ## States in lower case -/

theorem sameCode_lowerCode (a b : String) :
    sameCode (lowerCode a) (lowerCode b) = sameCode a b := by
  simp [sameCode, lowerCode, Function.comp_def]

namespace State

theorem lower_enter (state : State) (code : Char) :
    (state.enter code).lower = state.lower.enter code.toLower := by
  rw [enter, enter, CodeClass.of?_toLower]
  cases CodeClass.of? code with
  | none => rfl
  | some kind =>
    cases kind with
    | color => simp [State.apply, lower, lowerCode_written]
    | reset => rfl
    | format =>
      have active : state.lower.formats.any (sameCode · (written code.toLower)) =
          state.formats.any (sameCode · (written code)) := by
        rw [lower, List.any_map, ← lowerCode_written]
        exact congrArg _ (funext fun other => sameCode_lowerCode other _)
      simp only [State.apply, active]
      split
      next => rfl
      next => simp [lower, lowerCode_written]

/-- Codes in lower case lead to the state in lower case. -/
theorem lower_foldl_enter (state : State) (codes : List Char) :
    (codes.foldl enter state).lower = (codes.map Char.toLower).foldl enter state.lower := by
  induction codes generalizing state with
  | nil => rfl
  | cons code codes ih => rw [List.foldl_cons, ih, lower_enter, List.map_cons, List.foldl_cons]

/-- **Scanning and translation see the same codes.** For text that brings no section sign, the
display state of the translated text, and the state that scanning it leads to once it is shown with
markers again, are the state that scanning the text leads to, in lower case. Code by code: scanning
enters those that it tracks, the display codes of the translated text are the codes of the table in
lower case, and these are the tracked ones and each `x`. -/
theorem scan_eq_translated {text : String} (h : displayMarker ∉ text.toList) :
    displayed (translate text) = (scan {} text).lower ∧
      scan {} (untranslate (translate text)) = (scan {} text).lower ∧
      scan {} text = (trackedCodes text.toList).foldl enter {} ∧
      codesBehind displayMarker (codeTable.toList.contains ·) (translate text).toList =
        (translatedCodes text.toList).map Char.toLower ∧
      trackedCodes text.toList = (translatedCodes text.toList).filter (·.toLower != 'x') := by
  have entered : scan {} text = (trackedCodes text.toList).foldl enter {} := scanChars_eq_foldl _ _
  refine ⟨displayed_translate h, ?_, entered, ?_, trackedCodes_eq_filter _⟩
  · rw [scan, scanChars_eq_foldl, toList_untranslate_translate, trackedCodes_shownAgain h, entered,
      lower_foldl_enter]
    rfl
  · rw [translate, translateWith, String.toList_ofList, ← funext isTranslatable_eq_contains]
    exact codesBehind_translateChars h

/-- Doubled markers, upper case, an `x`, an unknown code, a character that is not ASCII, a format
in either case, and a marker at the end. -/
theorem scan_eq_translated_mixed :
    displayMarker ∉ "&k&&C&X&é&N&l&n&".toList ∧
      displayed (translate "&k&&C&X&é&N&l&n&") = { color := some "&c", formats := ["&n", "&l"] } ∧
      scan {} (untranslate (translate "&k&&C&X&é&N&l&n&")) =
        { color := some "&c", formats := ["&n", "&l"] } ∧
      codesBehind displayMarker (codeTable.toList.contains ·)
        (translate "&k&&C&X&é&N&l&n&").toList = "kcxnln".toList := by
  have unmarked : displayMarker ∉ "&k&&C&X&é&N&l&n&".toList := by decide
  obtain ⟨display, again, -, codes, -⟩ := scan_eq_translated unmarked
  exact ⟨unmarked, display.trans (by decide), again.trans (by decide),
    codes.trans (by decide +kernel)⟩

end State
end InteractiveMobs.Formatting
