import InteractiveMobs.Proofs.Yaml.Literal
import InteractiveMobs.Yaml.Token
import Mathlib.Data.String.Basic

/-!
# What scalars are written as

A scalar is written in one of four forms (`Form`). Whichever it is, every character of it can be
shown, and the last line ends with a break (`exists_endLine`). What a key is written as before its
colon stays on its line and is not long.
-/

namespace InteractiveMobs.Yaml.Writing
set_option autoImplicit false

/-- What a text may be written as, and when. -/
inductive Form (text : List Char) : ScalarStyle → List Char → Prop where
  | plain (allowed : plainAllowed text = true) : Form text .plain text
  | single (flat : '\n' ∉ text) (allowed : singleAllowed text = true) :
    Form text .singleQuoted (single text)
  | double : Form text .doubleQuoted (double text)
  | literal (lines : '\n' ∈ text) (allowed : literalAllowed text = true) :
    Form text .literal (literal text)

theorem exists_form (text : List Char) : ∃ style, Form text style (scalar text) := by
  unfold scalar
  split
  next lines =>
    split
    next allowed => exact ⟨_, .literal (by simpa using lines) allowed⟩
    next => exact ⟨_, .double⟩
  next flat =>
    split
    next allowed => exact ⟨_, .plain allowed⟩
    next =>
      split
      next allowed => exact ⟨_, .single (by simpa using flat) allowed⟩
      next => exact ⟨_, .double⟩

/-! ## Between double quotes -/

theorem of_letter {c letter : Char} (h : letter? c = some letter) :
    isPrintable letter = true ∧ isBreak letter = false ∧ letter.utf8Size = 1 := by
  unfold letter? at h
  split at h <;> cases h <;> decide

theorem of_hexDigit : ∀ n < 16, isPrintable (hexDigit n) = true ∧ isBreak (hexDigit n) = false ∧
    (hexDigit n).utf8Size = 1 := by decide

theorem of_mem_hexDigits {width n : Nat} {c : Char} (mem : c ∈ hexDigits width n) :
    isPrintable c = true ∧ isBreak c = false := by
  induction width generalizing n with
  | zero => cases mem
  | succ width ih =>
    rcases List.mem_append.1 mem with mem | mem
    · exact ih mem
    · obtain rfl := List.mem_singleton.1 mem
      have digit := of_hexDigit (n % 16) (Nat.mod_lt _ (by decide))
      exact ⟨digit.1, digit.2.1⟩

theorem utf8Len_hexDigits (width n : Nat) : String.utf8Len (hexDigits width n) = width := by
  induction width generalizing n with
  | zero => rfl
  | succ width ih =>
    have digit := of_hexDigit (n % 16) (Nat.mod_lt _ (by decide))
    simp [hexDigits, ih, digit.2.2]

theorem of_mem_codePoint {c d : Char} (mem : d ∈ codePoint c) :
    isPrintable d = true ∧ isBreak d = false := by
  have marked {mark : Char} {width : Nat} (shown : isPrintable mark = true)
      (unbroken : isBreak mark = false) (mem : d ∈ '\\' :: mark :: hexDigits width c.toNat) :
      isPrintable d = true ∧ isBreak d = false := by
    rcases List.mem_cons.1 mem with rfl | mem
    · decide
    · rcases List.mem_cons.1 mem with rfl | mem
      · exact ⟨shown, unbroken⟩
      · exact of_mem_hexDigits mem
  unfold codePoint at mem
  dsimp only at mem
  split at mem
  · exact marked (by decide) (by decide) mem
  · split at mem
    · exact marked (by decide) (by decide) mem
    · exact marked (by decide) (by decide) mem

/-- What is written between double quotes stays on its line. -/
theorem of_mem_doubleChar {c d : Char} (mem : d ∈ doubleChar c) :
    isPrintable d = true ∧ isBreak d = false := by
  unfold doubleChar at mem
  split at mem
  next letter found =>
    obtain ⟨shown, unbroken, -⟩ := of_letter found
    rcases List.mem_cons.1 mem with rfl | mem
    · decide
    · obtain rfl := List.mem_singleton.1 mem
      exact ⟨shown, unbroken⟩
  next none =>
    split at mem
    next shown =>
      obtain rfl := List.mem_singleton.1 mem
      exact ⟨shown, (DoubleQuoted.of_letter_eq_none none).2.2.2⟩
    next => exact of_mem_codePoint mem

theorem utf8Len_codePoint (c : Char) : String.utf8Len (codePoint c) ≤ 6 * c.utf8Size := by
  have positive := c.utf8Size_pos
  have backslash : '\\'.utf8Size = 1 := rfl
  unfold codePoint
  dsimp only
  split
  · have mark : 'x'.utf8Size = 1 := rfl
    simp only [String.utf8Len_cons, utf8Len_hexDigits]
    omega
  · split
    · have mark : 'u'.utf8Size = 1 := rfl
      simp only [String.utf8Len_cons, utf8Len_hexDigits]
      omega
    next high =>
      have mark : 'U'.utf8Size = 1 := rfl
      have wide : 2 ≤ c.utf8Size := by
        have one : c.utf8Size ≠ 1 := by
          have ascii : UInt32.toNat 127 = 127 := rfl
          rw [Ne, Char.utf8Size_eq_one_iff, UInt32.le_iff_toNat_le, ascii]
          simp only [Char.toNat] at high
          omega
        omega
      simp only [String.utf8Len_cons, utf8Len_hexDigits]
      omega

theorem utf8Len_doubleChar (c : Char) : String.utf8Len (doubleChar c) ≤ 6 * c.utf8Size := by
  have positive := c.utf8Size_pos
  have backslash : '\\'.utf8Size = 1 := rfl
  unfold doubleChar
  split
  next letter found =>
    obtain ⟨-, -, size⟩ := of_letter found
    simp only [String.utf8Len_cons, String.utf8Len_nil]
    omega
  next =>
    split
    next =>
      simp only [String.utf8Len_cons, String.utf8Len_nil]
      omega
    next => exact utf8Len_codePoint c

/-! ## All forms -/

theorem eq_of_mem_margin {afterBreak : Bool} {c : Char}
    (mem : c ∈ if afterBreak then margin textIndent else []) : c = ' ' := by
  split at mem
  · exact List.eq_of_mem_replicate mem
  · cases mem

theorem of_mem_singleBody {text : List Char} {afterBreak : Bool} {c : Char}
    (mem : c ∈ singleBody afterBreak text) : c ∈ text ∨ c = ' ' ∨ c = '\'' := by
  induction text generalizing afterBreak with
  | nil =>
    have body : singleBody afterBreak [] =
        (if afterBreak then margin textIndent else []) ++ ['\''] := by
      rw [singleBody]
      split <;> simp
    rw [body] at mem
    rcases List.mem_append.1 mem with mem | mem
    · exact .inr (.inl (eq_of_mem_margin mem))
    · exact .inr (.inr (List.mem_singleton.1 mem))
  | cons d rest ih =>
    have later {afterBreak : Bool} (mem : c ∈ singleBody afterBreak rest) :
        c ∈ d :: rest ∨ c = ' ' ∨ c = '\'' := (ih mem).imp_left (List.mem_cons_of_mem d)
    rw [singleBody] at mem
    split at mem
    next =>
      rcases List.mem_cons.1 mem with rfl | mem
      · exact .inl List.mem_cons_self
      · exact later mem
    next =>
      split at mem
      next =>
        rcases List.mem_cons.1 mem with rfl | mem
        · exact .inr (.inl rfl)
        · exact later mem
      next =>
        rcases List.mem_append.1 mem with mem | mem
        · rcases List.mem_append.1 mem with mem | mem
          · exact .inr (.inl (eq_of_mem_margin mem))
          · split at mem
            next => exact .inr (.inr (by simpa using mem))
            next => exact .inl (by simp [List.mem_singleton.1 mem])
        · exact later mem

theorem of_mem_literalBody {text : List Char} {afterBreak : Bool} {c : Char}
    (mem : c ∈ literalBody afterBreak text) : c ∈ text ∨ c = ' ' := by
  induction text generalizing afterBreak with
  | nil => cases mem
  | cons d rest ih =>
    have later {afterBreak : Bool} (mem : c ∈ d :: literalBody afterBreak rest) :
        c ∈ d :: rest ∨ c = ' ' := by
      rcases List.mem_cons.1 mem with rfl | mem
      · exact .inl List.mem_cons_self
      · exact (ih mem).imp_left (List.mem_cons_of_mem d)
    rw [literalBody] at mem
    split at mem
    next => exact later mem
    next =>
      rcases List.mem_append.1 mem with mem | mem
      · exact .inr (eq_of_mem_margin mem)
      · exact later mem

theorem isPrintable_of_mem {text : List Char} (shown : hasUnprintable text = false) {c : Char}
    (mem : c ∈ text) : isPrintable c = true := by
  simpa using List.any_eq_false.1 shown c mem

/-- Every character of a scalar can be shown. -/
theorem isPrintable_of_mem_form {text written : List Char} {style : ScalarStyle}
    (form : Form text style written) {c : Char} (mem : c ∈ written) : isPrintable c = true := by
  cases form with
  | plain allowed =>
    exact isPrintable_of_mem (Plain.isText_of_plainAllowed allowed).shown mem
  | single flat allowed =>
    simp only [singleAllowed, Bool.not_eq_true', Bool.or_eq_false_iff] at allowed
    rcases List.mem_cons.1 mem with rfl | mem
    · decide
    · rcases of_mem_singleBody mem with mem | rfl | rfl
      · exact isPrintable_of_mem allowed.2 mem
      · decide
      · decide
  | double =>
    rcases List.mem_append.1 mem with mem | mem
    · rcases List.mem_cons.1 mem with rfl | mem
      · decide
      · obtain ⟨d, -, mem⟩ := List.mem_flatMap.1 mem
        exact (of_mem_doubleChar mem).1
    · obtain rfl := List.mem_singleton.1 mem
      decide
  | literal lines allowed =>
    simp only [literalAllowed, Bool.not_eq_true', Bool.or_eq_false_iff] at allowed
    have indent : ∀ c ∈ literalIndent text, isPrintable c = true := by
      unfold literalIndent
      split <;> exact List.all_eq_true.1 (by decide)
    have chomping : ∀ c ∈ literalChomping text, isPrintable c = true := by
      unfold literalChomping
      repeat' split
      all_goals exact List.all_eq_true.1 (by decide)
    rw [literal, List.cons_append, List.cons_append] at mem
    rcases List.mem_cons.1 mem with rfl | mem
    · decide
    · rcases List.mem_append.1 mem with mem | mem
      · rcases List.mem_append.1 mem with mem | mem
        · exact indent c mem
        · exact chomping c mem
      · rcases List.mem_cons.1 mem with rfl | mem
        · decide
        · rcases of_mem_literalBody mem with mem | rfl
          · exact isPrintable_of_mem allowed.2 mem
          · decide

theorem isPrintable_of_mem_margin {n : Nat} {c : Char} (mem : c ∈ margin n) :
    isPrintable c = true := by
  obtain rfl := List.eq_of_mem_replicate mem
  rfl

theorem isPrintable_of_mem_endLine {text : List Char} (shown : ∀ c ∈ text, isPrintable c = true) :
    ∀ c ∈ endLine text, isPrintable c = true := by
  unfold endLine
  split
  · exact shown
  · exact List.forall_mem_append.2 ⟨shown, List.forall_mem_singleton.2 rfl⟩

/-! ## Keys before a colon -/

theorem utf8Len_singleBody {text : List Char} (unbroken : ∀ c ∈ text, isBreak c = false) :
    String.utf8Len (singleBody false text) ≤ 2 * String.utf8Len text + 1 := by
  induction text with
  | nil => decide
  | cons c rest ih =>
    have on := ih fun d mem => unbroken d (List.mem_cons_of_mem c mem)
    have quote : '\''.utf8Size = 1 := rfl
    rw [singleBody, unbroken c List.mem_cons_self, String.utf8Len_cons]
    simp only [Bool.false_eq_true, if_false, List.nil_append]
    split
    next space =>
      rw [String.utf8Len_cons, space]
      omega
    next =>
      rw [String.utf8Len_append]
      split
      next is =>
        simp only [String.utf8Len_cons, String.utf8Len_nil, is]
        omega
      next =>
        simp only [String.utf8Len_cons, String.utf8Len_nil]
        omega

theorem utf8Len_flatMap_doubleChar (text : List Char) :
    String.utf8Len (text.flatMap doubleChar) ≤ 6 * String.utf8Len text := by
  induction text with
  | nil => decide
  | cons c rest ih =>
    have first := utf8Len_doubleChar c
    rw [List.flatMap_cons, String.utf8Len_append, String.utf8Len_cons]
    omega

/-- What a text without breaks is written as has none, and is not much longer. -/
theorem Form.of_unbroken {text written : List Char} {style : ScalarStyle}
    (form : Form text style written) (unbroken : ∀ c ∈ text, isBreak c = false) :
    style ≠ .literal ∧ (∀ c ∈ written, isBreak c = false) ∧
      String.utf8Len written ≤ 6 * String.utf8Len text + 2 := by
  cases form with
  | plain allowed => exact ⟨nofun, unbroken, by omega⟩
  | single flat allowed =>
    have body := utf8Len_singleBody unbroken
    refine ⟨nofun, fun c mem => ?_, ?_⟩
    · rcases List.mem_cons.1 mem with rfl | mem
      · rfl
      · rcases of_mem_singleBody mem with mem | rfl | rfl
        · exact unbroken c mem
        · rfl
        · rfl
    · have quote : '\''.utf8Size = 1 := rfl
      rw [Writing.single, String.utf8Len_cons]
      omega
  | double =>
    have body := utf8Len_flatMap_doubleChar text
    refine ⟨nofun, fun c mem => ?_, ?_⟩
    · rcases List.mem_append.1 mem with mem | mem
      · rcases List.mem_cons.1 mem with rfl | mem
        · rfl
        · obtain ⟨d, -, mem⟩ := List.mem_flatMap.1 mem
          exact (of_mem_doubleChar mem).2
      · obtain rfl := List.mem_singleton.1 mem
        rfl
    · have quote : '"'.utf8Size = 1 := rfl
      rw [Writing.double, String.utf8Len_append, String.utf8Len_cons, String.utf8Len_cons,
        String.utf8Len_nil]
      omega
  | literal lines allowed => exact absurd (unbroken _ lines) (by decide)

/-! ## Ends of lines -/

theorem exists_endLine (text : List Char) :
    ∃ front b, endLine text = front ++ [b] ∧ isBreak b = true := by
  unfold endLine
  split
  next ends =>
    rcases List.eq_nil_or_concat' text with rfl | ⟨front, b, rfl⟩
    · cases ends
    · exact ⟨front, b, rfl, by simpa using ends⟩
  next => exact ⟨text, '\n', rfl, rfl⟩

theorem endLine_append (front : List Char) {text : List Char} (some_text : text ≠ []) :
    endLine (front ++ text) = front ++ endLine text := by
  obtain ⟨text, b, rfl⟩ := (List.eq_nil_or_concat' text).resolve_left some_text
  have last : (front ++ (text ++ [b])).getLast? = some b := by simp
  have last' : (text ++ [b]).getLast? = some b := by simp
  rw [endLine, endLine, last, last']
  split <;> simp

theorem endLine_concat (text : List Char) (c : Char) :
    endLine (text ++ [c]) = text ++ [c] ++ if isBreak c then [] else ['\n'] := by
  rw [endLine, List.getLast?_append_of_ne_nil _ (by simp), List.getLast?_singleton]
  cases breaks : isBreak c <;> simp [breaks]

theorem exists_singleBody (afterBreak : Bool) (text : List Char) :
    ∃ front, singleBody afterBreak text = front ++ ['\''] := by
  induction text generalizing afterBreak with
  | nil =>
    cases afterBreak with
    | false => exact ⟨[], rfl⟩
    | true => exact ⟨margin textIndent, rfl⟩
  | cons c rest ih =>
    rw [singleBody]
    split
    next =>
      obtain ⟨front, body⟩ := ih true
      exact ⟨c :: front, by rw [body, List.cons_append]⟩
    next =>
      split
      next =>
        obtain ⟨front, body⟩ := ih afterBreak
        exact ⟨' ' :: front, by rw [body, List.cons_append]⟩
      next =>
        obtain ⟨front, body⟩ := ih false
        exact ⟨_, by rw [body, ← List.append_assoc]⟩

/-- A scalar that is no block leaves the end of its line to be written. -/
theorem Form.endLine_eq {text written : List Char} {style : ScalarStyle}
    (form : Form text style written) (inline : style ≠ .literal) :
    endLine written = written ++ ['\n'] := by
  cases form with
  | plain allowed =>
    have plain := Plain.isText_of_plainAllowed allowed
    obtain ⟨front, c, rfl⟩ := (List.eq_nil_or_concat' text).resolve_left plain.some_text
    rw [endLine_concat, plain.unbroken c (by simp)]
    rfl
  | single flat allowed =>
    obtain ⟨front, body⟩ := exists_singleBody false text
    rw [Writing.single, body, ← List.cons_append, endLine_concat]
    rfl
  | double =>
    rw [Writing.double, endLine_concat]
    rfl
  | literal lines allowed => exact absurd rfl inline

theorem endLine_literal {text : List Char} (some_text : text ≠ []) :
    endLine (literal text) = '|' :: (literalIndent text ++ literalChomping text ++
      '\n' :: (literalBody true text ++ if Block.endsLine true text then [] else ['\n'])) := by
  obtain ⟨front, b, rfl⟩ := (List.eq_nil_or_concat' text).resolve_left some_text
  have last : ∃ before, literalBody true (front ++ [b]) = before ++ [b] := by
    rw [Block.literalBody_append, literalBody]
    split
    · exact ⟨_, rfl⟩
    · exact ⟨_, (List.append_assoc _ _ _).symm⟩
  obtain ⟨before, body⟩ := last
  have whole : literal (front ++ [b]) = '|' :: (literalIndent (front ++ [b]) ++
      literalChomping (front ++ [b]) ++ '\n' :: before) ++ [b] := by
    rw [literal, body]
    simp
  rw [Block.endsLine_append, whole, endLine_concat, body]
  simp

theorem Form.ne_nil {text written : List Char} {style : ScalarStyle}
    (form : Form text style written) : written ≠ [] := by
  cases form with
  | plain allowed => exact (Plain.isText_of_plainAllowed allowed).some_text
  | single flat allowed => exact nofun
  | double => exact nofun
  | literal lines allowed => exact nofun

end InteractiveMobs.Yaml.Writing
