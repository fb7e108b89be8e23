import InteractiveMobs.Proofs.Formatting.Translation

/-!
# Translation is stable and local

Codes may be marked by any character that is none itself, the section sign included. What has been
translated has no codes left to translate, but for display codes in lower case, and these stay as
they are; no pair comes about either, since what a code becomes begins with a section sign.

A text may be translated in two parts wherever no code lies across the cut
(`translateChars_append`). A code that does is translated as if it stood by itself
(`translateChars_across`).
-/

namespace InteractiveMobs.Formatting
set_option autoImplicit false

section translateChars

variable {mark : Char}

theorem translateChars_plain {c : Char} (h : c ≠ mark) (rest : List Char) :
    translateChars mark (c :: rest) = c :: translateChars mark rest := by
  cases rest with
  | nil => rfl
  | cons code rest => rw [translateChars, if_neg fun pair => h pair.1]

theorem translateChars_lone {rest : List Char} (h : rest.head?.any isTranslatable = false) :
    translateChars mark (mark :: rest) = mark :: translateChars mark rest := by
  cases rest with
  | nil => rfl
  | cons code rest =>
    have unknown : isTranslatable code = false := h
    rw [translateChars, if_neg (by simp [unknown])]

/-- Two texts are translated in turn unless a code lies across the cut between them. -/
theorem translateChars_append {a b : List Char}
    (h : a.getLast? = some mark → b.head?.any isTranslatable = false) :
    translateChars mark (a ++ b) = translateChars mark a ++ translateChars mark b := by
  fun_induction translateChars mark a with
  | case1 => rfl
  | case2 c =>
    by_cases hc : c = mark
    · subst hc
      exact translateChars_lone (h rfl)
    · exact translateChars_plain hc b
  | case3 c code rest pair ih =>
    obtain ⟨rfl, translatable⟩ := pair
    rw [List.cons_append, List.cons_append, translateChars_code translatable, ih]
    · rfl
    · intro last
      refine h ?_
      rw [List.getLast?_cons, List.getLast?_cons, last]
      rfl
  | case4 c code rest single ih =>
    rw [List.cons_append, List.cons_append, translateChars, if_neg single, ← List.cons_append,
      ih (by simpa using h)]
    rfl

/-- A code across the cut becomes a display code between what the rests of both texts become. -/
theorem translateChars_across (unknown : isTranslatable mark = false) {code : Char}
    (h : isTranslatable code) (front rest : List Char) :
    translateChars mark (front ++ mark :: code :: rest) =
      translateChars mark front ++ displayMarker :: code.toLower :: translateChars mark rest := by
  rw [translateChars_append (b := mark :: code :: rest) fun _ => unknown, translateChars_code h]

/-- A translated text begins with a code character just if the text does. -/
theorem any_head?_translateChars (unknown : isTranslatable mark = false) (text : List Char) :
    (translateChars mark text).head?.any isTranslatable = text.head?.any isTranslatable := by
  fun_cases translateChars mark text with
  | case1 => rfl
  | case2 c => rfl
  | case3 c code rest pair =>
    obtain ⟨rfl, -⟩ := pair
    exact isTranslatable_displayMarker.trans unknown.symm
  | case4 c code rest single => rfl

theorem translateChars_translateChars (unknown : isTranslatable mark = false) (text : List Char) :
    translateChars mark (translateChars mark text) = translateChars mark text := by
  fun_induction translateChars mark text with
  | case1 => rfl
  | case2 c => rfl
  | case3 c code rest pair ih =>
    obtain ⟨rfl, translatable⟩ := pair
    have lowered : isTranslatable code.toLower := by simpa using translatable
    by_cases display : displayMarker = c
    · -- display codes are translated once more, into themselves
      subst display
      rw [translateChars_code lowered, Char.toLower_toLower_eq_toLower, ih]
    · have unmarked : code.toLower ≠ c := ne_of_isTranslatable lowered unknown
      rw [translateChars_plain display, translateChars_plain unmarked, ih]
  | case4 c code rest single ih =>
    by_cases hc : c = mark
    · subst hc
      have unknown_code : isTranslatable code = false := by simpa using single
      rw [translateChars_lone, ih]
      rw [any_head?_translateChars unknown]
      exact unknown_code
    · rw [translateChars_plain hc, ih]

end translateChars

/-- **Translation is stable and local.** With a mark that is no code, translating once more changes
nothing, and a text in two parts is translated part by part, unless the first ends with the mark and
the second begins with a code. Then this code becomes a display code in lower case, between what the
first without the mark and the second without the code become. -/
theorem translateWith_local {mark : Char} (unknown : isTranslatable mark = false) (a b : String) :
    translateWith mark (translateWith mark a) = translateWith mark a ∧
      (¬ (a.toList.getLast? = some mark ∧ b.toList.head?.any isTranslatable) →
        translateWith mark (a ++ b) = translateWith mark a ++ translateWith mark b) ∧
      ∀ (front rest : String) (code : Char),
        a = front.push mark → b = String.singleton code ++ rest → isTranslatable code →
          translateWith mark (a ++ b) =
            translateWith mark front ++ String.ofList [displayMarker, code.toLower] ++
              translateWith mark rest := by
  refine ⟨?_, fun apart => ?_, ?_⟩
  · rw [translateWith, translateWith, String.toList_ofList,
      translateChars_translateChars unknown]
  · have closed : a.toList.getLast? = some mark → b.toList.head?.any isTranslatable = false := by
      intro marked
      by_contra code
      exact apart ⟨marked, by simpa using code⟩
    rw [translateWith, translateWith, translateWith, String.toList_append,
      translateChars_append closed, String.ofList_append]
  · rintro front rest code rfl rfl translatable
    rw [translateWith, translateWith, translateWith, ← String.ofList_append,
      ← String.ofList_append]
    refine congrArg String.ofList ?_
    have across := translateChars_across unknown translatable front.toList rest.toList
    simpa using across

/-- Section signs as marks: a code that is one already, one that lies across the cut behind a lone
section sign, and one in front of a character that is no code. -/
theorem translateWith_local_display :
    isTranslatable displayMarker = false ∧
      translateWith displayMarker ("\u00A7A\u00A7\u00A7" ++ "R\u00A7Zr\u00A7K") =
        "\u00A7a\u00A7\u00A7r\u00A7Zr\u00A7k" ∧
      translateWith displayMarker ("\u00A7A\u00A7\u00A7" ++ "Z") = "\u00A7a\u00A7\u00A7Z" ∧
      translateWith displayMarker "\u00A7a\u00A7\u00A7" = "\u00A7a\u00A7\u00A7" := by
  have unknown := isTranslatable_displayMarker
  have translated : translateWith displayMarker "\u00A7A\u00A7\u00A7" = "\u00A7a\u00A7\u00A7" := by
    decide
  refine ⟨unknown, ?_, ?_, ?_⟩
  · rw [(translateWith_local unknown _ _).2.2 "\u00A7A\u00A7" "\u00A7Zr\u00A7K" 'R' (by decide)
      (by decide) (by decide)]
    decide
  · rw [(translateWith_local unknown _ _).2.1 (by decide)]
    decide
  · rw [← translated]
    exact (translateWith_local unknown _ "").1

end InteractiveMobs.Formatting
