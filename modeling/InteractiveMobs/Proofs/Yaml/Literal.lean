import InteractiveMobs.Proofs.Yaml.Inline
import InteractiveMobs.Yaml.Block
import Mathlib.Data.List.Basic

/-!
# Literal blocks read back

A text that is written as a literal block is read back, with the breaks at its end. The reader's
state stands for the text read so far (`Lines.Stands`), and the header says what the end of the
text makes necessary: an indentation where the first line does not show it, and a chomping.
-/

namespace InteractiveMobs.Yaml.Block
set_option autoImplicit false
open Writing

variable {least : Nat}

/-- Whether a break comes last, given whether one came before the text. -/
def endsLine (afterBreak : Bool) : List Char → Bool
  | [] => afterBreak
  | c :: rest => endsLine (isBreak c) rest

/-- Where the reader is in a line: at its start behind a break, else inside its text. -/
def lineStart (afterBreak : Bool) : Option Nat := if afterBreak then some 0 else none

/-- The lines read so far stand for a text, which is kept newest first. -/
structure Lines.Stands (lines : Lines) (afterBreak : Bool) (newest : List Char) : Prop where
  indent : lines.indent = some textIndent
  inside : afterBreak = false → lines.lineBreak = none ∧ lines.emptyLines = []
  text : lines.emptyLines ++ (lines.lineBreak.toList ++ lines.text) = newest

theorem readLines_inside {c : Char} (unbroken : isBreak c = false) (lines : Lines)
    (rest : List Char) : readLines false least none lines (c :: rest) =
      readLines false least none { lines with text := c :: lines.text } rest := by
  rw [readLines]
  simp [unbroken]

theorem readLines_break {c : Char} (breaks : isBreak c = true) (lines : Lines)
    (rest : List Char) : readLines false least none lines (c :: rest) =
      readLines false least (some 0) { lines with lineBreak := some c } rest := by
  rw [readLines]
  simp [breaks]

theorem readLines_emptyLine {c : Char} (breaks : isBreak c = true) (lines : Lines)
    (rest : List Char) : readLines false least (some 0) lines (c :: rest) =
      readLines false least (some 0) (lines.endEmpty 0 c) rest := by
  have space : c ≠ ' ' := ne_of_class breaks rfl
  have tab : c ≠ '\t' := ne_of_class breaks rfl
  rw [readLines]
  simp [breaks, space, tab]

/-- Behind its margin, a line starts with whatever its text starts with. -/
theorem readLines_start {c : Char} (unbroken : isBreak c = false) {lines : Lines}
    (known : lines.indent = some textIndent) (rest : List Char) :
    readLines false least (some 0) lines (margin textIndent ++ c :: rest) =
      readLines false least none (lines.startText false c) rest := by
  have same : { lines with indent := some textIndent } = lines := by rw [← known]
  simp only [margin, textIndent, List.replicate, List.cons_append, List.nil_append] at known same ⊢
  simp [readLines, known, unbroken, same]

/-- Reading the lines of a text adds the text to what the lines stand for. -/
theorem readLines_body (least : Nat) (text : List Char) {lines : Lines} {afterBreak : Bool}
    {newest : List Char} (stands : lines.Stands afterBreak newest) (behind : List Char) :
    ∃ lines' : Lines, lines'.Stands (endsLine afterBreak text) (text.reverse ++ newest) ∧
      readLines false least (lineStart afterBreak) lines (literalBody afterBreak text ++ behind) =
        readLines false least (lineStart (endsLine afterBreak text)) lines' behind := by
  induction text generalizing lines afterBreak newest with
  | nil => exact ⟨lines, stands, rfl⟩
  | cons c rest ih =>
    obtain ⟨indent, inside, text_eq⟩ := stands
    rw [endsLine, literalBody, List.reverse_cons, List.append_assoc, List.singleton_append]
    cases breaks : isBreak c with
    | true =>
      have next : ∃ lines' : Lines, lines'.Stands true (c :: newest) ∧
          readLines false least (lineStart afterBreak) lines
              (c :: (literalBody true rest ++ behind)) =
            readLines false least (some 0) lines' (literalBody true rest ++ behind) := by
        cases afterBreak with
        | true =>
          -- the break ends an empty line, the one before it stays the break of its own line
          refine ⟨lines.endEmpty 0 c, ⟨indent, nofun, ?_⟩, readLines_emptyLine breaks lines _⟩
          rw [← text_eq]
          rfl
        | false =>
          refine ⟨{ lines with lineBreak := some c }, ⟨indent, nofun, ?_⟩,
            readLines_break breaks lines _⟩
          obtain ⟨noBreak, noLines⟩ := inside rfl
          rw [← text_eq, noBreak, noLines]
          rfl
      obtain ⟨lines', stands', read⟩ := next
      obtain ⟨lines'', stands'', on⟩ := ih stands'
      exact ⟨lines'', stands'', read.trans on⟩
    | false =>
      have next : ∃ lines' : Lines, lines'.Stands false (c :: newest) ∧
          readLines false least (lineStart afterBreak) lines
              ((if afterBreak then margin textIndent else []) ++
                c :: (literalBody false rest ++ behind)) =
            readLines false least none lines' (literalBody false rest ++ behind) := by
        cases afterBreak with
        | true =>
          refine ⟨lines.startText false c, ⟨indent, fun _ => ⟨rfl, rfl⟩, ?_⟩,
            readLines_start breaks indent _⟩
          rw [← text_eq]
          simp [Lines.startText, Lines.joint]
        | false =>
          obtain ⟨noBreak, noLines⟩ := inside rfl
          refine ⟨{ lines with text := c :: lines.text }, ⟨indent, fun _ => ⟨noBreak, noLines⟩, ?_⟩,
            readLines_inside breaks lines _⟩
          rw [← text_eq, noBreak, noLines]
          rfl
      obtain ⟨lines', stands', read⟩ := next
      obtain ⟨lines'', stands'', on⟩ := ih stands'
      refine ⟨lines'', stands'', ?_⟩
      simp only [Bool.false_eq_true, if_false, List.append_assoc, List.cons_append]
      exact read.trans on

/-- The block ends before a line that is less indented. -/
theorem readLines_end {lines : Lines} (known : lines.indent = some textIndent)
    {more next : List Char} (continues : Continues 2 more next) :
    readLines false least (some 0) lines more = .ok (lines, next) := by
  cases continues with
  | nothing => rw [readLines]
  | word starts =>
    obtain ⟨blank, unbroken, -, -⟩ := of_startsWord starts
    simp only [isBlank, Bool.or_eq_false_iff, decide_eq_false_iff_not] at blank
    have same : { lines with indent := some textIndent } = lines := by rw [← known]
    simp only [textIndent] at known same
    simp [readLines, margin, List.replicate, known, unbroken, blank, same]

/-! ## Headers -/

/-- The indicator of a chomping. -/
def indicator : Chomping → List Char
  | .strip => ['-']
  | .clip => []
  | .keep => ['+']

theorem readHeader_written (indented : Bool) (chomping : Chomping) (rest : List Char) :
    readHeader ((if indented then ['2'] else []) ++ indicator chomping ++ '\n' :: rest) =
      .ok (⟨chomping, if indented then some 2 else none⟩, '\n' :: rest) := by
  cases indented <;> cases chomping <;> rfl

/-- Whether the first line does not show how far the text is indented. -/
def hidesIndent (text : List Char) : Bool := text.head?.any fun c => c = ' ' || isBreak c

/-- The text is read as if its indentation were given, if its first line shows it. -/
theorem readLines_literalBody {text : List Char} (some_text : text ≠ [])
    (shown : hasUnprintable text = false) (behind : List Char) :
    readLines false 3 (some 0)
        { indent := (if hidesIndent text then some 2 else none).map (2 + ·) }
        (literalBody true text ++ behind) =
      readLines false 3 (some 0) { indent := some textIndent } (literalBody true text ++ behind) := by
  split
  next => rfl
  next shows =>
    obtain ⟨c, rest, rfl⟩ := List.exists_cons_of_ne_nil some_text
    have tab : c ≠ '\t' := ne_of_class (hasUnprintable_cons.1 shown).1 rfl
    simp only [hidesIndent, List.head?_cons, Option.any_some, Bool.or_eq_true, decide_eq_true_eq,
      not_or, Bool.not_eq_true] at shows
    obtain ⟨space, unbroken⟩ := shows
    have given : ({ indent := some textIndent } : Lines).indent = some textIndent := rfl
    simp only [literalBody, unbroken, Bool.false_eq_true, if_false, if_true, List.append_assoc,
      List.cons_append]
    rw [readLines_start unbroken given]
    simp only [margin, textIndent, List.replicate, List.cons_append, List.nil_append]
    simp [readLines, unbroken, space, tab, Lines.startText, Lines.joint]

theorem endsLine_append (afterBreak : Bool) (text : List Char) (c : Char) :
    endsLine afterBreak (text ++ [c]) = isBreak c := by
  induction text generalizing afterBreak with
  | nil => rfl
  | cons d rest ih => exact ih _

theorem literalBody_append (afterBreak : Bool) (text rest : List Char) :
    literalBody afterBreak (text ++ rest) =
      literalBody afterBreak text ++ literalBody (endsLine afterBreak text) rest := by
  induction text generalizing afterBreak with
  | nil => rfl
  | cons c text ih =>
    rw [List.cons_append, literalBody, literalBody, endsLine, ih, ih]
    cases isBreak c <;> simp

theorem stands_start : ({ indent := some textIndent } : Lines).Stands true [] :=
  ⟨rfl, nofun, rfl⟩

/-- A text that does not end with a break, and one break behind it. -/
theorem readLines_line {text : List Char} (ends : endsLine true text = false) {b : Char}
    (breaks : isBreak b = true) {more next : List Char} (continues : Continues 2 more next) :
    ∃ lines : Lines,
      readLines false least (some 0) { indent := some textIndent }
        (literalBody true text ++ b :: more) = .ok (lines, next) ∧
      lines.finish .strip = text ∧ lines.finish .clip = text ++ [b] := by
  obtain ⟨lines, ⟨indent, inside, whole⟩, read⟩ :=
    readLines_body least text stands_start (b :: more)
  rw [ends] at read inside
  obtain ⟨noBreak, noLines⟩ := inside rfl
  rw [noBreak, noLines] at whole
  have whole' : lines.text = text.reverse := by simpa using whole
  have indent' : ({ lines with lineBreak := some b } : Lines).indent = some textIndent := indent
  refine ⟨{ lines with lineBreak := some b }, ?_, ?_, ?_⟩
  · exact read.trans ((readLines_break breaks lines more).trans (readLines_end indent' continues))
  · simp [Lines.finish, whole']
  · simp [Lines.finish, whole']

/-- The breaks at the end of the text, if there are several or there is nothing else. -/
theorem readLines_kept {text : List Char} (ends : endsLine true text = true)
    {more next : List Char} (continues : Continues 2 more next) :
    ∃ lines : Lines,
      readLines false least (some 0) { indent := some textIndent }
        (literalBody true text ++ more) = .ok (lines, next) ∧ lines.finish .keep = text := by
  obtain ⟨lines, ⟨indent, -, whole⟩, read⟩ :=
    readLines_body least text stands_start more
  rw [ends] at read
  refine ⟨lines, read.trans (readLines_end indent continues), ?_⟩
  rw [Lines.finish, List.append_assoc, whole]
  simp

/-- Reading a block, given what its header and its lines are read as. -/
theorem read_of_lines {text body next : List Char} (some_text : text ≠ [])
    (shown : hasUnprintable text = false) {chomping : Chomping}
    (chomps : literalChomping text = indicator chomping) {lines : Lines} {behind : List Char}
    (body_eq : body = literalBody true text ++ behind)
    (read_lines : readLines false 3 (some 0) { indent := some textIndent }
      (literalBody true text ++ behind) = .ok (lines, next))
    (whole : lines.finish chomping = text) :
    read false (some 2) (literalIndent text ++ literalChomping text ++ '\n' :: body) =
      .ok (text, next) := by
  have indent : literalIndent text = if hidesIndent text then ['2'] else [] := rfl
  have header := readHeader_written (hidesIndent text) chomping body
  rw [← indent, ← chomps] at header
  rw [← readLines_literalBody some_text shown, ← body_eq] at read_lines
  have skip : skipLine false ('\n' :: body) = .ok body := rfl
  simp only [read, header, skip, bind, Except.bind, pure, Except.pure, Option.getD_some]
  rw [read_lines, ← whole]

/-- The end of the text says which chomping keeps it. -/
theorem literalChomping_append (front : List Char) (b : Char) :
    literalChomping (front ++ [b]) = indicator
      (if isBreak b then if endsLine true front then .keep else .clip else .strip) := by
  rw [literalChomping, List.reverse_append, List.reverse_singleton, List.singleton_append]
  cases breaks : isBreak b with
  | false => simp [breaks, indicator]
  | true =>
    rcases List.eq_nil_or_concat' front with rfl | ⟨front, a, rfl⟩
    · simp [breaks, endsLine, indicator]
    · rw [endsLine_append, List.reverse_append, List.reverse_singleton, List.singleton_append]
      cases before : isBreak a <;> simp [breaks, before, indicator]

/-- **A literal block is read back**, up to the next word at the column of its mapping. -/
theorem read_literal {text : List Char} (some_text : text ≠ [])
    (shown : hasUnprintable text = false) {more next : List Char}
    (continues : Continues 2 more next) :
    read false (some 2) (literalIndent text ++ literalChomping text ++
        '\n' :: (literalBody true text ++ ((if endsLine true text then [] else ['\n']) ++ more))) =
      .ok (text, next) := by
  -- the last character, and whether it ends an empty line, decides the chomping
  obtain ⟨front, b, rfl⟩ := (List.eq_nil_or_concat' text).resolve_left some_text
  have chomps := literalChomping_append front b
  have ends := endsLine_append true front b
  cases breaks : isBreak b with
  | false =>
    rw [breaks] at chomps ends
    have line : isBreak '\n' = true := rfl
    obtain ⟨lines, read_lines, strip, -⟩ := readLines_line ends line continues
    rw [ends]
    exact read_of_lines some_text shown chomps rfl read_lines strip
  | true =>
    rw [breaks] at chomps ends
    rw [ends]
    cases last : endsLine true front with
    | true =>
      rw [last] at chomps
      obtain ⟨lines, read_lines, keep⟩ := readLines_kept ends continues
      exact read_of_lines some_text shown chomps rfl read_lines keep
    | false =>
      rw [last] at chomps
      obtain ⟨lines, read_lines, -, clip⟩ := readLines_line last breaks continues
      have body : literalBody true (front ++ [b]) ++ more = literalBody true front ++ b :: more := by
        rw [literalBody_append, last]
        simp [literalBody, breaks]
      rw [← body] at read_lines
      exact read_of_lines some_text shown chomps rfl read_lines clip

end InteractiveMobs.Yaml.Block
