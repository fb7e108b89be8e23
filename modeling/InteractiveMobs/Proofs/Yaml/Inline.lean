import InteractiveMobs.Yaml.DoubleQuoted
import InteractiveMobs.Yaml.Plain
import InteractiveMobs.Yaml.SingleQuoted
import InteractiveMobs.Yaml.Writing

/-!
# Scalars read back

What is written plain, between single quotes or between double quotes is read back as the text it
was written for, whatever the scalar stands in front of. Each proof goes through the text with the
reader's own state: the text read so far, and the gap since.
-/

namespace InteractiveMobs.Yaml
set_option autoImplicit false
open Writing

/-! ## Characters -/

/-- Characters that a class tells apart are different. -/
theorem ne_of_class {p : Char → Bool} {c d : Char} (h : p c = true) (h' : p d = false) :
    c ≠ d := by
  rintro rfl
  rw [h] at h'
  cases h'

theorem isAllowed_of_isPrintable {c : Char} (h : isPrintable c = true) : isAllowed c = true := by
  simp only [isPrintable, isAllowed, Bool.or_eq_true, Bool.and_eq_true, decide_eq_true_eq] at h ⊢
  omega

/-- A text that shows all its characters has line feeds for its line breaks already. -/
theorem unifyBreaks_eq {text : List Char} (shown : ∀ c ∈ text, isPrintable c = true) :
    unifyBreaks text = text := by
  have kept {c : Char} (shown : isPrintable c = true) : ¬ (c = '\r' ∨ c = '\u0085') := by
    rintro (rfl | rfl) <;> cases shown
  induction text with
  | nil => rfl
  | cons c rest ih =>
    have later := ih fun d mem => shown d (List.mem_cons_of_mem c mem)
    obtain ⟨not_return, not_next⟩ := not_or.1 (kept (shown c List.mem_cons_self))
    cases rest with
    | nil => simp [unifyBreaks, not_return, not_next]
    | cons next rest => simp [unifyBreaks, later, not_return, not_next]

/-- A character that can be shown is blank only if it is a space. -/
theorem isBlank_eq {c : Char} (h : isPrintable c = true) : isBlank c = decide (c = ' ') := by
  have tab : c ≠ '\t' := ne_of_class h (by decide)
  simp [isBlank, tab]

theorem hasUnprintable_cons {c : Char} {text : List Char} :
    hasUnprintable (c :: text) = false ↔ isPrintable c = true ∧ hasUnprintable text = false := by
  simp [hasUnprintable]

theorem startsSpacing_append {text behind : List Char} (h : startsSpacing text = false) :
    startsSpacing (text ++ behind) = false := by
  cases text with
  | nil => cases h
  | cons c rest => exact h

/-- Whether a word may start with the character: it is neither spacing nor starts a comment. -/
def startsWord (c : Char) : Bool := !(isSpacing c || c = '#' || c = byteOrderMark)

/-- Whether there is no white space, and no comment, before what is left. -/
def atWord (rest : List Char) : Bool := rest.head?.all startsWord

/-- What may come behind a line of a document, and what is left of it behind the margin: nothing at
all, or a word at the given column. -/
inductive Continues (column : Nat) : List Char → List Char → Prop where
  | nothing : Continues column [] []
  | word {c : Char} {rest : List Char} (starts : startsWord c = true) :
    Continues column (margin column ++ c :: rest) (c :: rest)

theorem of_startsWord {c : Char} (h : startsWord c = true) :
    isBlank c = false ∧ isBreak c = false ∧ c ≠ '#' ∧ c ≠ byteOrderMark := by
  simpa [startsWord, isSpacing, and_assoc] using h

/-- The gap of the given blanks, newest first. -/
def Gap.ofBlanks (newest : List Char) : Gap := if newest.isEmpty then .none else .blanks newest

theorem Gap.ofBlanks_nil : ofBlanks [] = none := rfl

theorem Gap.blank_ofBlanks (newest : List Char) (c : Char) :
    (ofBlanks newest).blank c = ofBlanks (c :: newest) := by
  cases newest <;> rfl

theorem Gap.folded_ofBlanks (newest : List Char) : (ofBlanks newest).folded = newest := by
  cases newest <;> rfl

/-! ## Plain scalars -/

namespace Plain
variable {indent : Nat} {newest : List Char}

theorem read_blank {c : Char} (blank : isBlank c = true) (blanks rest : List Char) :
    read false indent (.ofBlanks blanks) newest (c :: rest) =
      read false indent (.ofBlanks (c :: blanks)) newest rest := by
  rw [← Gap.blank_ofBlanks, read.eq_def]
  cases blanks <;> simp [blank, Gap.ofBlanks]

/-- A character that does not end the scalar belongs to it, with the blanks before it. -/
theorem read_char {c : Char} {blanks rest : List Char} (blank : isBlank c = false)
    (unbroken : isBreak c = false) (comment : c = '#' → blanks = [])
    (colon : (c = ':' && startsSpacing rest) = false) :
    read false indent (.ofBlanks blanks) newest (c :: rest) =
      read false indent .none (c :: (blanks ++ newest)) rest := by
  have within : endsInGap false indent (.ofBlanks blanks) (c :: rest) = false := by
    cases blanks with
    | nil => rfl
    | cons d blanks => simpa [Gap.ofBlanks, endsInGap] using fun is => nomatch comment is
  have inside : endsBefore false c rest = false := by simpa [endsBefore] using colon
  rw [read.eq_def]
  simp [blank, unbroken, within, inside, isStrayColon, Gap.folded_ofBlanks]

/-- A plain scalar is read up to its last character. -/
theorem read_text {text : List Char} (some_text : text ≠ []) (shown : hasUnprintable text = false)
    (unbroken : ∀ c ∈ text, isBreak c = false) (ends : text.getLast? ≠ some ' ')
    {blanks : List Char} (apart : hasSeparator (!blanks.isEmpty) text = false)
    (newest behind : List Char) :
    read false indent (.ofBlanks blanks) newest (text ++ behind) =
      read false indent .none (text.reverse ++ (blanks ++ newest)) behind := by
  induction text generalizing blanks newest with
  | nil => exact absurd rfl some_text
  | cons c rest ih =>
    obtain ⟨shown_c, shown⟩ := hasUnprintable_cons.1 shown
    have unbroken_c := unbroken c List.mem_cons_self
    have unbroken' : ∀ c ∈ rest, isBreak c = false := fun c mem => unbroken c (.tail _ mem)
    simp only [hasSeparator, Bool.or_eq_false_iff] at apart
    obtain ⟨⟨colon, comment⟩, apart⟩ := apart
    have blank := isBlank_eq shown_c
    rw [isSpacing, blank, unbroken_c, Bool.or_false] at apart
    by_cases space : c = ' '
    -- a space is kept back in the gap, and there is text behind it that needs it
    · have more : rest ≠ [] := by
        rintro rfl
        simp [space] at ends
      have ends' : rest.getLast? ≠ some ' ' := by
        rwa [List.getLast?_cons_of_ne_nil more] at ends
      rw [List.cons_append, read_blank (by rw [blank, decide_eq_true space]),
        ih more shown unbroken' ends' (by simpa [space] using apart)]
      simp
    · have here : (c = ':' && startsSpacing (rest ++ behind)) = false := by
        by_cases is : c = ':'
        · rw [decide_eq_true is, Bool.true_and] at colon ⊢
          exact startsSpacing_append colon
        · simp [is]
      rw [List.cons_append, read_char (by simp [blank, space]) unbroken_c
        (by simpa [and_comm] using comment) here]
      by_cases more : rest = []
      · simp [more]
      · have ends' : rest.getLast? ≠ some ' ' := by
          rwa [List.getLast?_cons_of_ne_nil more] at ends
        have apart' : hasSeparator (!([] : List Char).isEmpty) rest = false := by
          simpa [space] using apart
        rw [← Gap.ofBlanks_nil, ih more shown unbroken' ends' apart', Gap.ofBlanks_nil]
        simp

/-- A text that can stand without quotes. -/
structure IsText (text : List Char) : Prop where
  some_text : text ≠ []
  shown : hasUnprintable text = false
  unbroken : ∀ c ∈ text, isBreak c = false
  head : text.head? ≠ some ' '
  last : text.getLast? ≠ some ' '
  indicator : startsIndicator text = false
  separator : hasSeparator false text = false

theorem isText_of_plainAllowed {text : List Char} (h : plainAllowed text = true) : IsText text := by
  simp only [plainAllowed, Bool.not_eq_true', Bool.or_eq_false_iff, decide_eq_false_iff_not,
    List.any_eq_false, Bool.not_eq_true] at h
  obtain ⟨⟨⟨⟨⟨⟨⟨meant, head⟩, last⟩, unbroken⟩, shown⟩, -⟩, indicator⟩, separator⟩ := h
  refine ⟨?_, shown, unbroken, head, last, indicator, separator⟩
  rintro rfl
  cases meant

theorem IsText.read {text : List Char} (plain : IsText text) (behind : List Char) :
    Plain.read false indent .none [] (text ++ behind) =
      Plain.read false indent .none text.reverse behind := by
  have apart : hasSeparator (!([] : List Char).isEmpty) text = false := plain.separator
  rw [← Gap.ofBlanks_nil, read_text plain.some_text plain.shown plain.unbroken plain.last apart,
    Gap.ofBlanks_nil]
  simp

/-- A plain scalar ends before a colon that stands apart. -/
theorem IsText.read_key {text : List Char} (plain : IsText text) {behind : List Char}
    (apart : startsSpacing behind = true) :
    Plain.read false indent .none [] (text ++ ':' :: behind) = .ok ⟨text, ':' :: behind, false⟩ := by
  rw [plain.read]
  simp [Plain.read, isBlank, isBreak, endsInGap, isStrayColon, endsBefore, apart, Gap.hasBreak]

theorem read_margin (n : Nat) (first : Option Char) (more : List Char) (rest : List Char) :
    read false indent (.lines first more 0) newest (margin n ++ rest) =
      read false indent (.lines first more n) newest rest := by
  have on (column : Nat) :
      read false indent (.lines first more column) newest (margin n ++ rest) =
        read false indent (.lines first more (column + n)) newest rest := by
    induction n generalizing column with
    | zero => rfl
    | succ n ih =>
      have space : isBlank ' ' = true := rfl
      rw [margin, List.replicate_succ, List.cons_append, Plain.read, if_pos space]
      simp only [Gap.blank]
      refine (ih (column + 1)).trans ?_
      rw [Nat.add_right_comm, Nat.add_assoc]
  rw [on, Nat.zero_add]

/-- A plain scalar ends with its line, if the next line is less indented. -/
theorem IsText.read_line {text : List Char} (plain : IsText text) {column : Nat}
    {more next : List Char} (continues : Continues column more next) (deep : column < indent) :
    Plain.read false indent .none [] (text ++ '\n' :: more) = .ok ⟨text, next, true⟩ := by
  have broken : Plain.read false indent .none text.reverse ('\n' :: more) =
      Plain.read false indent (.lines (some '\n') [] 0) text.reverse more := by
    rw [Plain.read.eq_def]
    simp [isBlank, isBreak, Gap.lineBreak]
  rw [plain.read, broken]
  cases continues with
  | nothing => simp [Plain.read, Gap.hasBreak]
  | word starts =>
    obtain ⟨blank, unbroken, -, -⟩ := of_startsWord starts
    have ends : ∀ word, endsInGap false indent (.lines (some '\n') [] column) word = true := by
      intro word
      simp [endsInGap, deep]
    rw [read_margin, Plain.read, blank, unbroken, ends]
    simp [Gap.hasBreak]

end Plain

/-! ## Single-quoted scalars -/

namespace SingleQuoted
variable {newest : List Char}

theorem read_blank {c : Char} (blank : isBlank c = true) (gap : Gap) {rest : List Char}
    (more : rest ≠ []) : read gap newest (c :: rest) = read (gap.blank c) newest rest := by
  obtain ⟨d, rest, rfl⟩ := List.exists_cons_of_ne_nil more
  rw [read, if_pos blank]

theorem read_break {c : Char} (blank : isBlank c = false) (breaks : isBreak c = true) (gap : Gap)
    {rest : List Char} (more : rest ≠ []) :
    read gap newest (c :: rest) = read (gap.lineBreak c) newest rest := by
  obtain ⟨d, rest, rfl⟩ := List.exists_cons_of_ne_nil more
  rw [read, if_neg (by simp [blank]), if_pos breaks]

/-- A character of the text is read with the gap before it; a quote is written twice. -/
theorem read_char {c : Char} (blank : isBlank c = false) (unbroken : isBreak c = false) {gap : Gap}
    (inside : gap.atLineStart = false) {rest : List Char} (more : rest ≠ []) :
    read gap newest ((if c = '\'' then ['\'', '\''] else [c]) ++ rest) =
      read .none (c :: (gap.folded ++ newest)) rest := by
  obtain ⟨d, rest, rfl⟩ := List.exists_cons_of_ne_nil more
  split
  next quote => simp [quote, read, inside, isBlank, isBreak]
  next other => simp [other, read, inside, blank, unbroken]

theorem read_end {gap : Gap} (inside : gap.atLineStart = false) {d : Char} (other : d ≠ '\'')
    (behind : List Char) : read gap newest ('\'' :: d :: behind) =
      .ok ((gap.folded ++ newest).reverse, d :: behind) := by
  simp [read, inside, isBlank, isBreak, other]

/-- A gap with the margin of a line that starts in it. -/
def indented : Gap → Gap
  | .lines first more column => .lines first more (column + textIndent)
  | gap => gap

theorem read_margin (gap : Gap) {rest : List Char} (more : rest ≠ []) :
    read gap newest ((if gap.hasBreak then margin textIndent else []) ++ rest) =
      read (indented gap) newest rest := by
  cases gap with
  | none => rfl
  | blanks => rfl
  | lines first breaks column =>
    simp [Gap.hasBreak, margin, textIndent, List.replicate, read_blank, Gap.blank, indented, more,
      isBlank]

theorem atLineStart_indented (gap : Gap) : (indented gap).atLineStart = false := by
  cases gap <;> rfl

theorem folded_indented (gap : Gap) : (indented gap).folded = gap.folded := by
  cases gap with
  | none => rfl
  | blanks => rfl
  | lines first more column =>
    rw [indented]
    unfold Gap.folded
    split <;> simp_all

/-- Whether the text may go on like this behind the gap: no break after a blank, and no blank
after a break. -/
def Fits : Gap → List Char → Prop
  | .none, _ => True
  | .blanks _, text => text.head?.any isBreak = false
  | .lines (some c) _ _, text => c ≠ '\n' ∧ text.head? ≠ some ' '
  | .lines none _ _, _ => False

theorem hasBreakSpace_cons {c : Char} {rest : List Char} :
    hasBreakSpace (c :: rest) = false ↔
      (isBreak c = true → rest.head? ≠ some ' ') ∧ hasBreakSpace rest = false := by
  cases rest <;> simp [hasBreakSpace, hasNeighbours]

theorem hasSpaceBreak_cons {c : Char} {rest : List Char} :
    hasSpaceBreak (c :: rest) = false ↔
      (c = ' ' → rest.head?.any isBreak = false) ∧ hasSpaceBreak rest = false := by
  cases rest <;> simp [hasSpaceBreak, hasNeighbours]

theorem folded_lines {c : Char} (other : c ≠ '\n') (more : List Char) (column : Nat) :
    (Gap.lines (some c) more column).folded = more ++ [c] := by
  unfold Gap.folded
  split <;> simp_all

theorem fits_lineBreak {c : Char} {rest : List Char} {gap : Gap} (fits : Fits gap (c :: rest))
    (breaks : isBreak c = true) (other : c ≠ '\n') (unspaced : rest.head? ≠ some ' ') :
    Fits (gap.lineBreak c) rest ∧ (gap.lineBreak c).folded = c :: gap.folded := by
  cases gap with
  | none => exact ⟨⟨other, unspaced⟩, folded_lines other [] 0⟩
  | blanks spaces => simp [Fits, breaks] at fits
  | lines first more column =>
    cases first with
    | none => exact fits.elim
    | some first =>
      refine ⟨⟨fits.1, unspaced⟩, ?_⟩
      rw [Gap.lineBreak, folded_lines fits.1, folded_lines fits.1, List.cons_append]

theorem fits_blank {rest : List Char} {gap : Gap} (fits : Fits gap (' ' :: rest))
    (unbroken : rest.head?.any isBreak = false) :
    Fits (gap.blank ' ') rest ∧ (gap.blank ' ').folded = ' ' :: gap.folded ∧
      (gap.blank ' ').hasBreak = gap.hasBreak := by
  cases gap with
  | none => exact ⟨unbroken, rfl, rfl⟩
  | blanks spaces => exact ⟨unbroken, rfl, rfl⟩
  | lines first more column =>
    cases first with
    | none => exact fits.elim
    | some first => exact absurd rfl fits.2

/-- The text between single quotes is read back. -/
theorem read_body {text : List Char} (shown : hasUnprintable text = false) (flat : '\n' ∉ text)
    (breakSpace : hasBreakSpace text = false) (spaceBreak : hasSpaceBreak text = false)
    {gap : Gap} (fits : Fits gap text) {d : Char} (other : d ≠ '\'') (newest behind : List Char) :
    read gap newest (singleBody gap.hasBreak text ++ d :: behind) =
      .ok ((gap.folded ++ newest).reverse ++ text, d :: behind) := by
  induction text generalizing gap newest with
  | nil =>
    have body : singleBody gap.hasBreak [] ++ d :: behind =
        (if gap.hasBreak then margin textIndent else []) ++ '\'' :: d :: behind := by
      rw [singleBody]
      split <;> simp
    rw [body, read_margin _ (by simp), read_end (atLineStart_indented gap) other, folded_indented,
      List.append_nil]
  | cons c rest ih =>
    obtain ⟨shown_c, shown'⟩ := hasUnprintable_cons.1 shown
    obtain ⟨breakSpace_c, breakSpace'⟩ := hasBreakSpace_cons.1 breakSpace
    obtain ⟨spaceBreak_c, spaceBreak'⟩ := hasSpaceBreak_cons.1 spaceBreak
    obtain ⟨line_c, flat'⟩ := not_or.1 (mt List.mem_cons.2 flat)
    have blank := isBlank_eq shown_c
    rw [singleBody]
    split
    next breaks =>
      have blank_c : isBlank c = false := by
        rw [blank, decide_eq_false_iff_not]
        rintro rfl
        cases breaks
      obtain ⟨fits', folded⟩ := fits_lineBreak fits breaks (Ne.symm line_c) (breakSpace_c breaks)
      have afterBreak : (gap.lineBreak c).hasBreak = true := by cases gap <;> rfl
      have on := ih shown' flat' breakSpace' spaceBreak' fits' newest
      rw [afterBreak, folded] at on
      rw [List.cons_append, read_break blank_c breaks gap (by simp), on]
      simp
    next unbroken =>
      split
      next space =>
        subst space
        obtain ⟨fits', folded, hasBreak⟩ := fits_blank fits (spaceBreak_c rfl)
        have on := ih shown' flat' breakSpace' spaceBreak' fits' newest
        rw [hasBreak, folded] at on
        rw [List.cons_append, read_blank rfl gap (by simp), on]
        simp
      next other =>
        have fits' : Fits .none rest := trivial
        have on := ih shown' flat' breakSpace' spaceBreak' fits' (c :: (gap.folded ++ newest))
        rw [List.append_assoc, List.append_assoc, read_margin _ (by split <;> simp),
          read_char (by simp [blank, other]) (by simpa using unbroken) (atLineStart_indented gap)
            (by simp), folded_indented]
        exact on.trans (by simp [Gap.folded])

end SingleQuoted

/-! ## Double-quoted scalars -/

namespace DoubleQuoted
variable {newest : List Char}

theorem hexValue_hexDigit : ∀ n < 16, hexValue? (hexDigit n) = some n := by decide

theorem charOf_toNat (c : Char) : charOf? c.toNat = some c := by
  have valid : c.toNat.isValidChar := c.valid
  rw [charOf?, dif_pos valid]
  rfl

/-- All digits but the last. -/
theorem read_digits (width n count value : Nat) (rest : List Char) :
    read (.digits (width + (count + 1)) value) .none newest (hexDigits width n ++ rest) =
      read (.digits (count + 1) (value * Nat.pow 16 width + n % Nat.pow 16 width)) .none newest
        rest := by
  induction width generalizing n count rest with
  | zero => simp [hexDigits, Nat.mod_one]
  | succ width ih =>
    have low : n % 16 < 16 := Nat.mod_lt _ (by decide)
    have lots : ¬ count + 1 + 1 ≤ 1 := by omega
    have power : Nat.pow 16 (width + 1) = 16 * Nat.pow 16 width := Nat.pow_succ'
    have digits : n % Nat.pow 16 (width + 1) = n % 16 + 16 * (n / 16 % Nat.pow 16 width) := by
      rw [power, Nat.mod_mul]
    have value_eq : (value * Nat.pow 16 width + n / 16 % Nat.pow 16 width) * 16 + n % 16 =
        value * Nat.pow 16 (width + 1) + n % Nat.pow 16 (width + 1) := by
      rw [digits, power, Nat.add_mul, Nat.mul_left_comm, Nat.mul_comm _ 16]
      omega
    have more : width + 1 + (count + 1) = width + (count + 1 + 1) := by omega
    rw [hexDigits, List.append_assoc, more, ih, List.singleton_append, read,
      hexValue_hexDigit _ low, ← value_eq]
    simp only [lots, if_false]
    rfl

/-- A code point is read back, if the digits suffice for it. -/
theorem read_codePoint (width : Nat) {c : Char} (enough : c.toNat < Nat.pow 16 (width + 1))
    (rest : List Char) :
    read (.digits (width + 1) 0) .none newest (hexDigits (width + 1) c.toNat ++ rest) =
      read .none .none (c :: newest) rest := by
  have low : c.toNat % 16 < 16 := Nat.mod_lt _ (by decide)
  have high : c.toNat / 16 < Nat.pow 16 width := by
    have power : Nat.pow 16 (width + 1) = 16 * Nat.pow 16 width := Nat.pow_succ'
    rw [power] at enough
    omega
  have whole : c.toNat / 16 * 16 + c.toNat % 16 = c.toNat := by omega
  rw [hexDigits, List.append_assoc, read_digits width _ 0, List.singleton_append, read,
    hexValue_hexDigit _ low, Nat.mod_eq_of_lt high]
  simp [whole, charOf_toNat]

theorem escaped_of_letter {c letter : Char} (h : letter? c = some letter) :
    isBreak letter = false ∧ escaped? letter = some c := by
  unfold letter? at h
  split at h <;> cases h <;> exact ⟨rfl, rfl⟩

/-- A character without a letter of its own does not end the scalar, a line or a word. -/
theorem of_letter_eq_none {c : Char} (h : letter? c = none) :
    c ≠ '"' ∧ c ≠ '\\' ∧ c ≠ '\t' ∧ isBreak c = false := by
  refine ⟨?_, ?_, ?_, Bool.eq_false_iff.2 fun breaks => ?_⟩
  · rintro rfl
    cases h
  · rintro rfl
    cases h
  · rintro rfl
    cases h
  · simp only [isBreak, Bool.or_eq_true, decide_eq_true_eq] at breaks
    obtain (rfl | rfl) | rfl := breaks <;> cases h

theorem read_backslash (spaces rest : List Char) :
    read .none (.ofBlanks spaces) newest ('\\' :: rest) =
      read .opened .none (spaces ++ newest) rest := by
  have inside : (Gap.ofBlanks spaces).atLineStart = false := by cases spaces <;> rfl
  simp [read, isBlank, isBreak, inside, Gap.folded_ofBlanks]

theorem read_space (spaces rest : List Char) :
    read .none (.ofBlanks spaces) newest (' ' :: rest) =
      read .none (.ofBlanks (' ' :: spaces)) newest rest := by
  rw [read, if_pos (by decide), Gap.blank_ofBlanks]

theorem read_marked {mark : Char} {width : Nat} (unbroken : isBreak mark = false)
    (other : escaped? mark = none) (counts : digitCount? mark = some (width + 1)) {c : Char}
    (enough : c.toNat < Nat.pow 16 (width + 1)) (spaces rest : List Char) :
    read .none (.ofBlanks spaces) newest ('\\' :: mark :: hexDigits (width + 1) c.toNat ++ rest) =
      read .none .none (c :: (spaces ++ newest)) rest := by
  rw [List.cons_append, read_backslash, List.cons_append, read]
  simp only [unbroken, other, counts]
  exact read_codePoint width enough rest

/-- What is written for a character other than a space is read as it. -/
theorem read_doubleChar {c : Char} (other : c ≠ ' ') (spaces rest : List Char) :
    read .none (.ofBlanks spaces) newest (doubleChar c ++ rest) =
      read .none .none (c :: (spaces ++ newest)) rest := by
  rw [doubleChar]
  split
  next letter found =>
    obtain ⟨unbroken, escaped⟩ := escaped_of_letter found
    rw [List.cons_append, read_backslash, List.singleton_append, read]
    simp [unbroken, escaped]
  next plain =>
    obtain ⟨quote, backslash, tab, unbroken⟩ := of_letter_eq_none plain
    split
    next shown =>
      have inside : (Gap.ofBlanks spaces).atLineStart = false := by cases spaces <;> rfl
      have blank : isBlank c = false := by simp [isBlank, other, tab]
      simp [read, blank, unbroken, inside, quote, backslash, Gap.folded_ofBlanks]
    next =>
      have bound : c.toNat < 0x110000 := by
        rcases c.valid with low | high <;> simp only [Char.toNat] <;> omega
      unfold codePoint
      dsimp only
      split
      next small =>
        exact read_marked rfl rfl rfl (Nat.lt_of_le_of_lt small (by decide)) spaces rest
      next =>
        split
        next small =>
          exact read_marked rfl rfl rfl (Nat.lt_of_le_of_lt small (by decide)) spaces rest
        next => exact read_marked rfl rfl rfl (Nat.lt_trans bound (by decide)) spaces rest

theorem read_body (text spaces behind : List Char) :
    read .none (.ofBlanks spaces) newest (text.flatMap doubleChar ++ '"' :: behind) =
      .ok (newest.reverse ++ (spaces.reverse ++ text), behind) := by
  induction text generalizing newest spaces with
  | nil =>
    have inside : (Gap.ofBlanks spaces).atLineStart = false := by cases spaces <;> rfl
    simp [read, isBlank, isBreak, inside, Gap.folded_ofBlanks]
  | cons c rest ih =>
    rw [List.flatMap_cons, List.append_assoc]
    by_cases space : c = ' '
    · subst space
      have itself : doubleChar ' ' = [' '] := by decide
      rw [itself, List.singleton_append, read_space, ih]
      simp
    · rw [read_doubleChar space, ← Gap.ofBlanks_nil, ih]
      simp

end DoubleQuoted
end InteractiveMobs.Yaml
