import InteractiveMobs.Proofs.Template.Conservation

/-!
# Printing templates

`Template.IsNormal` says which templates message texts stand for, and `Template.print` writes such
a template as a text that stands for it. What a run of backslashes is written as depends on what
follows it, in the text itself or behind it, so a text is escaped for its place: `escape true` is
for text with a delimiter behind it, `escape false` for text with nothing behind it.

The proof goes through the three readings in turn. The marks of a printed template are those of its
segments (`marks_print`), so its pieces are theirs too (`pieces_marks`), and joining these gives
the segments back (`join_pieces`).
-/

namespace InteractiveMobs
set_option autoImplicit false

/-- A template as compiling makes it: the text between tokens is one literal, no text is empty, and
there is one argument for each token. -/
@[mk_iff]
structure Template.IsNormal (template : Template) : Prop where
  literals : .literal "" ∉ template.segments
  apart : template.segments.IsChain fun a b => a.isToken ∨ b.isToken
  directives : .token (some "") ∉ template.segments
  counted : template.tokenCount = template.segments.countP Segment.isToken

instance (template : Template) : Decidable template.IsNormal :=
  decidable_of_iff _ (template.isNormal_iff).symm

namespace Reading

/-- Text written so that it is read as it is. A run of `n` backslashes directly before a brace is
written as `2 * n + 1`, and a run at the end is doubled if a delimiter is behind it. -/
def escape (delimited : Bool) (text : List Char) : List Char :=
  let run := text.takeWhile (· = '\\')
  match _h : text.dropWhile (· = '\\') with
  | [] => List.replicate (if delimited then 2 * run.length else run.length) '\\'
  | c :: rest =>
    List.replicate (if isBrace c then 2 * run.length + 1 else run.length) '\\' ++
      c :: escape delimited rest
termination_by text.length
decreasing_by exact length_lt_of_dropWhile _h

/-- Segments written out. A delimiter is behind a literal if a token follows it. -/
def print : List Segment → List Char
  | [] => []
  | .literal text :: rest => escape (rest.head?.any Segment.isToken) text.toList ++ print rest
  | .token directive :: rest =>
    '{' :: (escape true (Segment.token directive).chars ++ '}' :: print rest)

end Reading

/-- A message text for a template. -/
def Template.print (template : Template) : String := .ofList (Reading.print template.segments)

namespace Reading

/-! ## Escaped text -/

theorem escape_run (delimited : Bool) (n : Nat) :
    escape delimited (List.replicate n '\\') =
      List.replicate (if delimited then 2 * n else n) '\\' := by
  rw [escape]
  split
  next => simp
  next c rest found => simp at found

theorem escape_run_char {c : Char} (hc : c ≠ '\\') (delimited : Bool) (n : Nat)
    (rest : List Char) :
    escape delimited (List.replicate n '\\' ++ c :: rest) =
      List.replicate (if isBrace c then 2 * n + 1 else n) '\\' ++ c :: escape delimited rest := by
  rw [escape]
  split
  next none => simp [dropWhile_run hc] at none
  next c' rest' found =>
    rw [dropWhile_run hc] at found
    obtain ⟨rfl, rfl⟩ := List.cons.inj found
    rw [takeWhile_run hc, List.length_replicate]

/-- What a run and the character behind it are written as is read as them. -/
theorem marks_escaped {c : Char} (hc : c ≠ '\\') (n : Nat) (rest : List Char) :
    marks (List.replicate (if isBrace c then 2 * n + 1 else n) '\\' ++ c :: rest) =
      (List.replicate n '\\' ++ [c]).map .text ++ marks rest := by
  rw [marks_run_char hc, afterRun]
  split
  next brace =>
    have half : (2 * n + 1) / 2 = n := by omega
    have odd : (2 * n + 1) % 2 = 1 := by omega
    simp [half, odd]
  next => simp

theorem ne_backslash_of_isBrace {c : Char} (brace : isBrace c) : c ≠ '\\' := by
  rintro rfl
  cases brace

theorem marks_delimiter {c : Char} (brace : isBrace c) (rest : List Char) :
    marks (c :: rest) = delimiter c :: marks rest := by
  have read := marks_run_char (ne_backslash_of_isBrace brace) 0 rest
  simpa [afterRun, brace] using read

theorem marks_escape_true (text : List Char) {brace : Char} (h : isBrace brace)
    (behind : List Char) :
    marks (escape true text ++ brace :: behind) =
      text.map .text ++ delimiter brace :: marks behind := by
  induction text using run_induction with
  | run n =>
    have half : 2 * n / 2 = n := by omega
    rw [escape_run, if_pos rfl, marks_run_char (ne_backslash_of_isBrace h), afterRun, if_pos h]
    simp [half]
  | char n c rest hc ih =>
    rw [escape_run_char hc, List.append_assoc, List.cons_append, marks_escaped hc, ih]
    simp

theorem marks_escape_false (text : List Char) : marks (escape false text) = text.map .text := by
  induction text using run_induction with
  | run n => simp [escape_run, marks_run]
  | char n c rest hc ih =>
    rw [escape_run_char hc, marks_escaped hc, ih]
    simp

/-! ## Printed segments -/

/-- The marks a segment comes from. -/
def marksOf : Segment → List Mark
  | .literal text => text.toList.map .text
  | .token directive => .opening :: ((Segment.token directive).chars.map .text ++ [.closing])

/-- The pieces a segment comes from. -/
def piecesOf : Segment → List Piece
  | .literal text => text.toList.map .text
  | .token directive => [.token (Segment.token directive).chars]

variable {segments : List Segment}

theorem marks_token (directive : Option String) (rest : List Segment) :
    marks (print (.token directive :: rest)) =
      marksOf (.token directive) ++ marks (print rest) := by
  rw [print, marks_delimiter rfl, marks_escape_true _ rfl]
  simp [marksOf, delimiter]

/-- Printed segments are read as the marks they come from. -/
theorem marks_print (apart : segments.IsChain fun a b => a.isToken ∨ b.isToken) :
    marks (print segments) = segments.flatMap marksOf := by
  induction segments with
  | nil => exact marks_nil
  | cons segment rest ih =>
    have apart' := List.isChain_cons.1 apart
    rw [List.flatMap_cons, ← ih apart'.2]
    cases segment with
    | token directive => exact marks_token directive rest
    | literal text =>
      cases rest with
      | nil => simp [print, marks_escape_false, marksOf, marks_nil]
      | cons next rest =>
        cases next with
        | literal text' => simpa [Segment.isToken] using apart'.1 _ rfl
        | token directive =>
          have delimited : ((Segment.token directive :: rest).head?.any Segment.isToken) = true := rfl
          rw [print, delimited, print, marks_escape_true _ rfl, marks_delimiter rfl]
          simp [marksOf]

theorem pieces_marksOf (segments : List Segment) :
    pieces (segments.flatMap marksOf) = segments.flatMap piecesOf := by
  induction segments with
  | nil => rw [List.flatMap_nil, List.flatMap_nil, pieces]
  | cons segment rest ih =>
    rw [List.flatMap_cons, List.flatMap_cons, ← ih]
    cases segment with
    | literal text => exact pieces_text _ _
    | token directive =>
      rw [marksOf, List.cons_append, List.append_assoc]
      exact pieces_token _ _

theorem carried_chars {directive : Option String} (some_text : directive ≠ some "") :
    carried (Segment.token directive).chars = directive := by
  cases directive with
  | none => rfl
  | some text =>
    have ne : text.toList ≠ [] := by simpa using some_text
    rw [Segment.chars, carried_of_ne_nil ne, String.ofList_toList]

/-- The pieces of segments are joined to the segments, if no neighbours are joined. -/
theorem join_piecesOf (literals : .literal "" ∉ segments)
    (apart : segments.IsChain fun a b => a.isToken ∨ b.isToken)
    (directives : .token (some "") ∉ segments) :
    join [] (segments.flatMap piecesOf) = segments := by
  induction segments with
  | nil => rfl
  | cons segment rest ih =>
    have apart' := List.isChain_cons.1 apart
    have whole := ih (fun mem => literals (List.mem_cons_of_mem _ mem)) apart'.2
      (fun mem => directives (List.mem_cons_of_mem _ mem))
    rw [List.flatMap_cons]
    cases segment with
    | token directive =>
      have some_text : directive ≠ some "" := by
        rintro rfl
        exact directives List.mem_cons_self
      rw [piecesOf, List.cons_append, List.nil_append, join, carried_chars some_text, whole]
      rfl
    | literal text =>
      have ne : text.toList ≠ [] := by
        intro empty
        obtain rfl : text = "" := by simpa using empty
        exact literals List.mem_cons_self
      have alone : Reading.literals text.toList = [.literal text] := by
        rw [literals_of_ne_nil ne, String.ofList_toList]
      rw [piecesOf, join_text, List.nil_append]
      cases rest with
      | nil => exact alone
      | cons next rest =>
        cases next with
        | literal text' => simpa [Segment.isToken] using apart'.1 _ rfl
        | token directive =>
          rw [List.flatMap_cons, piecesOf, List.cons_append, List.nil_append, join] at whole ⊢
          rw [alone, List.singleton_append, ← whole]
          rfl

/-- Joining makes no empty text. -/
theorem ne_of_mem_join {before : List Char} {ps : List Piece} {segment : Segment}
    (mem : segment ∈ join before ps) : segment ≠ .literal "" ∧ segment ≠ .token (some "") := by
  have literal {text : List Char} (mem : segment ∈ literals text) :
      segment ≠ .literal "" ∧ segment ≠ .token (some "") := by
    cases text with
    | nil => simp [literals] at mem
    | cons c rest =>
      obtain rfl := List.mem_singleton.1 mem
      simp
  fun_induction join before ps with
  | case1 before => exact literal mem
  | case2 before c rest ih => exact ih mem
  | case3 before directive rest ih =>
    rcases List.mem_append.1 mem with mem | mem
    · exact literal mem
    · rcases List.mem_cons.1 mem with rfl | mem
      · cases directive <;> simp [carried]
      · exact ih mem

end Reading

namespace Template

theorem isNormal_compile (raw : String) : (compile raw).IsNormal := by
  rw [compile_eq_ofSegments]
  constructor
  · exact fun mem => (Reading.ne_of_mem_join mem).1 rfl
  · exact Reading.isChain_segments _
  · exact fun mem => (Reading.ne_of_mem_join mem).2 rfl
  · rfl

/-- **The image of compiling.** Compiling makes normal templates only, and each of them from the
text that it is printed as. -/
theorem compile_print : (∀ raw, (compile raw).IsNormal) ∧
    ∀ template, template.IsNormal → compile template.print = template := by
  refine ⟨isNormal_compile, fun template normal => ?_⟩
  obtain ⟨literals, apart, directives, counted⟩ := normal
  rw [compile_eq_ofSegments, print, String.toList_ofList, Reading.segments,
    Reading.marks_print apart, Reading.pieces_marksOf,
    Reading.join_piecesOf literals apart directives, ofSegments, ← counted]

/-- Backslashes before a brace, before a token, within a directive and at the end of the text. -/
theorem compile_print_backslashes :
    let template : Template :=
      ⟨[.literal "a\\\x7b\\\\", .token (some "\\\x7db\\"), .literal "\\\\"], 1⟩
    template.IsNormal ∧
      template.print = "a\\\\\\\x7b\\\\\\\\\x7b\\\\\\\x7db\\\\\x7d\\\\" ∧
      compile template.print = template := by
  have normal : IsNormal
      ⟨[.literal "a\\\x7b\\\\", .token (some "\\\x7db\\"), .literal "\\\\"], 1⟩ := by decide
  exact ⟨normal, by decide +kernel, compile_print.2 _ normal⟩

end Template
end InteractiveMobs
