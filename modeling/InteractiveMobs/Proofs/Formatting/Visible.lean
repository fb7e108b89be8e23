import InteractiveMobs.Proofs.Formatting.Scan
import Mathlib.Data.List.ReduceOption

/-!
# Visible text

What the display shows of template text: translation makes its codes display codes, and these are
dropped. Dropping looks at section signs alone and takes whatever stands behind one along, so it is
right because translation writes a code behind each. Main statement: what is left are the
characters outside of codes (`visible_eq_outside`), for text that brings no section sign of its own.
-/

namespace InteractiveMobs.Formatting
set_option autoImplicit false

/-- What the display shows of template text. -/
def visible (text : String) : String := strip (translate text)

/-! ## Places in a text -/

/-- A code begins at the place: there is the marker, and a character behind it that the display
knows as a code. -/
def codeAt (text : List Char) (place : Nat) : Bool :=
  text[place]? == some marker && text[place + 1]?.any isTranslatable

/-- The place is that of the marker or of the character of a code. -/
def inCode (text : List Char) : Nat → Bool
  | 0 => codeAt text 0
  | place + 1 => codeAt text (place + 1) || codeAt text place

/-- The characters outside of codes, in order. -/
def outside (text : List Char) : List Char :=
  (text.mapIdx fun place c => if inCode text place then none else some c).reduceOption

theorem codeAt_cons_succ (c : Char) (text : List Char) (place : Nat) :
    codeAt (c :: text) (place + 1) = codeAt text place := by
  simp [codeAt]

theorem isTranslatable_marker : isTranslatable marker = false := by decide

theorem isTranslatable_displayMarker : isTranslatable displayMarker = false := by decide

theorem ne_of_isTranslatable {code c : Char} (h : isTranslatable code)
    (unknown : isTranslatable c = false) : code ≠ c := by
  rintro rfl
  rw [unknown] at h
  cases h

/-- A code begins with the marker, which is no code. -/
theorem codeAt_eq_false {code : Char} (h : isTranslatable code) (rest : List Char) :
    codeAt (code :: rest) 0 = false := by
  have ne : code ≠ marker := ne_of_isTranslatable h isTranslatable_marker
  simp [codeAt, ne]

theorem outside_cons {c : Char} {text : List Char} (h : codeAt (c :: text) 0 = false) :
    outside (c :: text) = c :: outside text := by
  have shift (place : Nat) : inCode (c :: text) (place + 1) = inCode text place := by
    cases place with
    | zero => simp [inCode, codeAt_cons_succ, h]
    | succ place => simp [inCode, codeAt_cons_succ]
  have first : inCode (c :: text) 0 = false := h
  simp only [outside, List.mapIdx_cons, first, shift, Bool.false_eq_true, if_false]
  exact List.reduceOption_cons_of_some c _

theorem outside_code {code : Char} (h : isTranslatable code) (rest : List Char) :
    outside (marker :: code :: rest) = outside rest := by
  have here : codeAt (marker :: code :: rest) 0 = true := by simp [codeAt, h]
  have behind : codeAt (code :: rest) 0 = false := codeAt_eq_false h rest
  have first : inCode (marker :: code :: rest) 0 = true := here
  have second : inCode (marker :: code :: rest) (0 + 1) = true := by simp [inCode, here]
  have shift (place : Nat) :
      inCode (marker :: code :: rest) (place + 1 + 1) = inCode rest place := by
    cases place with
    | zero => simp [inCode, codeAt_cons_succ, behind]
    | succ place => simp [inCode, codeAt_cons_succ]
  simp only [outside, List.mapIdx_cons, first, second, shift, if_true]
  rw [List.reduceOption_cons_of_none, List.reduceOption_cons_of_none]

/-! ## What translating and stripping leave -/

theorem translateChars_code {mark code : Char} (h : isTranslatable code) (rest : List Char) :
    translateChars mark (mark :: code :: rest) =
      displayMarker :: code.toLower :: translateChars mark rest := by
  rw [translateChars, if_pos ⟨rfl, h⟩]

theorem translateChars_other {c : Char} {text : List Char} (h : codeAt (c :: text) 0 = false) :
    translateChars marker (c :: text) = c :: translateChars marker text := by
  cases text with
  | nil => rfl
  | cons code rest => rw [translateChars, if_neg (by simpa [codeAt] using h)]

/-- The characters of `visible`. -/
def visibleChars (text : List Char) : List Char := stripChars (translateChars marker text)

@[simp] theorem toList_visible (text : String) :
    (visible text).toList = visibleChars text.toList := by
  simp [visible, strip, translate, translateWith, visibleChars]

theorem stripChars_other {c : Char} (h : c ≠ displayMarker) (rest : List Char) :
    stripChars (c :: rest) = c :: stripChars rest := by
  cases rest with
  | nil => simp [stripChars, h]
  | cons code rest => simp [stripChars, h]

theorem visibleChars_code {code : Char} (h : isTranslatable code) (rest : List Char) :
    visibleChars (marker :: code :: rest) = visibleChars rest := by
  rw [visibleChars, translateChars_code h, stripChars, if_pos rfl, visibleChars]

theorem visibleChars_other {c : Char} {text : List Char} (h : codeAt (c :: text) 0 = false)
    (unmarked : c ≠ displayMarker) : visibleChars (c :: text) = c :: visibleChars text := by
  rw [visibleChars, translateChars_other h, stripChars_other unmarked, visibleChars]

/-- Text is read code by code and, outside of codes, character by character. -/
theorem reading_induction {motive : List Char → Prop} (nil : motive [])
    (code : ∀ code rest, isTranslatable code → motive rest → motive (marker :: code :: rest))
    (other : ∀ c rest, codeAt (c :: rest) 0 = false → motive rest → motive (c :: rest))
    (text : List Char) : motive text := by
  fun_induction translateChars marker text with
  | case1 => exact nil
  | case2 c => exact other c [] (by simp [codeAt]) nil
  | case3 c code' rest pair ih =>
    obtain ⟨rfl, translatable⟩ := pair
    exact code code' rest translatable ih
  | case4 c code' rest single ih =>
    exact other c (code' :: rest) (by simpa [codeAt] using single) ih

/-- Text without section signs is read in the same way. -/
theorem unmarked_induction {motive : (text : List Char) → displayMarker ∉ text → Prop}
    (nil : motive [] List.not_mem_nil)
    (code : ∀ code rest (unmarked : displayMarker ∉ rest)
      (h : displayMarker ∉ marker :: code :: rest), isTranslatable code → motive rest unmarked →
        motive (marker :: code :: rest) h)
    (other : ∀ c rest (unmarked : displayMarker ∉ rest) (h : displayMarker ∉ c :: rest),
      codeAt (c :: rest) 0 = false → c ≠ displayMarker → motive rest unmarked →
        motive (c :: rest) h)
    (text : List Char) (h : displayMarker ∉ text) : motive text h := by
  induction text using reading_induction with
  | nil => exact nil
  | code c rest translatable ih =>
    have unmarked : displayMarker ∉ rest :=
      List.not_mem_of_not_mem_cons (List.not_mem_of_not_mem_cons h)
    exact code c rest unmarked h translatable (ih unmarked)
  | other c rest single ih =>
    have unmarked : displayMarker ∉ rest := List.not_mem_of_not_mem_cons h
    have plain : c ≠ displayMarker := Ne.symm (List.ne_of_not_mem_cons h)
    exact other c rest unmarked h single plain (ih unmarked)

theorem visibleChars_eq_outside {text : List Char} (h : displayMarker ∉ text) :
    visibleChars text = outside text := by
  induction text, h using unmarked_induction with
  | nil => rfl
  | code code rest unmarked _ translatable ih =>
    rw [visibleChars_code translatable, outside_code translatable, ih]
  | other c rest unmarked _ single plain ih =>
    rw [visibleChars_other single plain, outside_cons single, ih]

/-- What is shown of a text is its characters outside of codes. -/
theorem visible_eq_outside {text : String} (h : displayMarker ∉ text.toList) :
    visible text = String.ofList (outside text.toList) := by
  rw [← String.toList_inj, toList_visible, String.toList_ofList, visibleChars_eq_outside h]

/-! ## Texts that show the same whatever follows -/

/-- The text brings no section sign and leaves no marker open. -/
structure IsClosed (text : List Char) : Prop where
  unmarked : displayMarker ∉ text
  closed : text.getLast? ≠ some marker

/-- The text shows the characters, and what follows it shows what it shows on its own. -/
def Shows (text shown : List Char) : Prop :=
  ∀ rest, visibleChars (text ++ rest) = shown ++ visibleChars rest

namespace Shows

variable {a b s t : List Char}

theorem nil : Shows [] [] := fun _ => rfl

theorem append (h : Shows a s) (h' : Shows b t) : Shows (a ++ b) (s ++ t) := by
  intro rest
  rw [List.append_assoc, h, h', List.append_assoc]

theorem visibleChars_eq (h : Shows a s) : visibleChars a = s := by
  have alone := h []
  rwa [List.append_nil, show visibleChars [] = [] from rfl, List.append_nil] at alone

theorem of_closed (h : IsClosed a) : Shows a (visibleChars a) := by
  intro rest
  obtain ⟨unmarked, closed⟩ := h
  induction a using reading_induction with
  | nil => rfl
  | code code text translatable ih =>
    rw [List.cons_append, List.cons_append, visibleChars_code translatable,
      visibleChars_code translatable]
    refine ih (fun mem => unmarked ?_) fun last => closed ?_
    · exact List.mem_cons_of_mem _ (List.mem_cons_of_mem _ mem)
    · rw [List.getLast?_cons, List.getLast?_cons, last]
      rfl
  | other c text single ih =>
    rw [List.mem_cons, not_or] at unmarked
    have single' : codeAt (c :: (text ++ rest)) 0 = false := by
      cases text with
      | nil =>
        have ne : c ≠ marker := by simpa using closed
        simp [codeAt, ne]
      | cons code text => simpa [codeAt] using single
    rw [List.cons_append, visibleChars_other single' (Ne.symm unmarked.1),
      visibleChars_other single (Ne.symm unmarked.1), List.cons_append]
    refine congrArg (c :: ·) ?_
    cases text with
    | nil => rfl
    | cons code text => exact ih unmarked.2 (by simpa [List.getLast?_cons_cons] using closed)

/-- A code is not seen. -/
theorem of_written {code : Char} {kind : CodeClass} (h : CodeClass.of? code = some kind) :
    Shows (written code).toList [] := by
  intro rest
  rw [toList_written]
  exact visibleChars_code (by simp [isTranslatable, h]) rest

theorem resetCode : Shows resetCode.toList [] :=
  of_written (by decide : CodeClass.of? 'r' = some .reset)

theorem of_formats {fs : List String}
    (h : ∀ code ∈ fs, ∃ c, code = written c ∧ CodeClass.of? c = some .format) :
    Shows (fs.flatMap String.toList) [] := by
  induction fs with
  | nil => exact nil
  | cons code fs ih =>
    obtain ⟨c, rfl, format⟩ := h code List.mem_cons_self
    exact (of_written format).append (ih fun other mem => h other (List.mem_cons_of_mem _ mem))

theorem restorePrefix {state : State} (h : state.Written) :
    Shows state.restorePrefix.toList [] := by
  rw [State.toList_restorePrefix]
  cases colored : state.color with
  | none => exact of_formats h.formats
  | some color =>
    obtain ⟨c, rfl, kind⟩ := h.color color colored
    exact (of_written kind).append (of_formats h.formats)

theorem visible_of_closed {text : String} (h : IsClosed text.toList) :
    Shows text.toList (visible text).toList := by
  rw [toList_visible]
  exact of_closed h

/-- Texts that each show the same whatever follows are shown one after the other. -/
theorem join {texts : List String} (h : ∀ text ∈ texts, Shows text.toList (visible text).toList) :
    Shows (String.join texts).toList (String.join (texts.map visible)).toList := by
  induction texts with
  | nil => exact nil
  | cons text rest ih =>
    rw [List.map_cons, String.join_cons, String.join_cons, String.toList_append,
      String.toList_append]
    exact (h text List.mem_cons_self).append
      (ih fun other mem => h other (List.mem_cons_of_mem _ mem))

end Shows

end InteractiveMobs.Formatting
