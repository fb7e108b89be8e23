import InteractiveMobs.Proofs.Template.Reading

/-!
# Compiling keeps the text

A template put back as text, each token between its braces, is the text it was compiled from,
except that every run of backslashes before a brace is half as long (`source_compile`). So no
character is lost on the way through the buffers of a draft, and none is made up: what a segment is
written with is in the text (`mem_of_mem_segments`).

Each of the three readings keeps the text on its own: settling backslashes is where it gets
shorter, finding tokens and joining text leave it as it is.
-/

namespace InteractiveMobs
set_option autoImplicit false

/-- The characters a segment is written with: those of its text, or of its directive. -/
def Segment.chars : Segment → List Char
  | literal text => text.toList
  | token none => []
  | token (some directive) => directive.toList

/-- A segment as text, a token between its braces. -/
def Segment.source : Segment → List Char
  | literal text => text.toList
  | token directive => '{' :: ((token directive).chars ++ ['}'])

/-- The segments of a template as text, in order. -/
def Template.source (template : Template) : String :=
  String.ofList (template.segments.flatMap Segment.source)

namespace Reading

/-- The text with every run of `n` backslashes directly before a brace cut down to `n / 2`. -/
def halved (text : List Char) : List Char :=
  let run := text.takeWhile (· = '\\')
  match _h : text.dropWhile (· = '\\') with
  | [] => run
  | c :: rest =>
    List.replicate (if isBrace c then run.length / 2 else run.length) '\\' ++ c :: halved rest
termination_by text.length
decreasing_by exact length_lt_of_dropWhile _h

theorem halved_run (n : Nat) : halved (List.replicate n '\\') = List.replicate n '\\' := by
  rw [halved]
  split
  next => simp
  next c rest found => simp at found

theorem halved_run_char {c : Char} (hc : c ≠ '\\') (n : Nat) (rest : List Char) :
    halved (List.replicate n '\\' ++ c :: rest) =
      List.replicate (if isBrace c then n / 2 else n) '\\' ++ c :: halved rest := by
  rw [halved]
  split
  next none => simp [dropWhile_run hc] at none
  next c' rest' found =>
    rw [dropWhile_run hc] at found
    obtain ⟨rfl, rfl⟩ := List.cons.inj found
    rw [takeWhile_run hc, List.length_replicate]

/-- Halving only takes backslashes away. -/
theorem halved_sublist (text : List Char) : (halved text).Sublist text := by
  induction text using run_induction with
  | run n => rw [halved_run]
  | char n c rest hc ih =>
    rw [halved_run_char hc]
    refine List.Sublist.append (List.replicate_sublist_replicate _ |>.2 ?_) (ih.cons_cons c)
    split <;> omega

/-! ## The text behind each reading -/

/-- The character a mark comes from. -/
def Mark.char : Mark → Char
  | text c => c
  | opening => '{'
  | closing => '}'

theorem char_delimiter {c : Char} (brace : isBrace c) : (delimiter c).char = c := by
  unfold delimiter
  split
  next opens => exact opens.symm
  next closes =>
    rw [isBrace, Bool.or_eq_true, decide_eq_true_eq, decide_eq_true_eq] at brace
    exact (brace.resolve_left closes).symm

theorem map_char_afterRun (n : Nat) (c : Char) :
    (afterRun n c).map Mark.char = List.replicate (if isBrace c then n / 2 else n) '\\' ++ [c] := by
  unfold afterRun
  split
  next brace =>
    rw [List.map_append, List.map_replicate, List.map_singleton]
    split
    next => rfl
    next => rw [char_delimiter brace]; rfl
  next => rw [List.map_append, List.map_replicate, List.map_singleton]; rfl

/-- Settling the backslashes leaves the halved text. -/
theorem map_char_marks (text : List Char) : (marks text).map Mark.char = halved text := by
  induction text using run_induction with
  | run n => rw [marks_run, halved_run, List.map_replicate]; rfl
  | char n c rest hc ih =>
    rw [marks_run_char hc, halved_run_char hc, List.map_append, map_char_afterRun, ih,
      List.append_assoc, List.singleton_append]

theorem beforeDelimiter_eq (ms : List Mark) :
    (beforeDelimiter ms).1.map .text ++ (beforeDelimiter ms).2 = ms := by
  fun_induction beforeDelimiter ms with
  | case1 c rest ih => simp [ih]
  | case2 => rfl

/-- A piece as text. -/
def Piece.source : Piece → List Char
  | text c => [c]
  | token directive => '{' :: (directive ++ ['}'])

/-- Finding the tokens moves no text. -/
theorem source_pieces (ms : List Mark) : (pieces ms).flatMap Piece.source = ms.map Mark.char := by
  fun_induction pieces ms with
  | case1 => rfl
  | case2 c rest ih => rw [List.flatMap_cons, ih]; rfl
  | case3 rest ih => rw [List.flatMap_cons, ih]; rfl
  | case4 rest directive after found ih =>
    have same := beforeDelimiter_eq rest
    rw [found] at same
    have plain : (directive.map Mark.text).map Mark.char = directive := by
      rw [List.map_map]
      exact List.map_id directive
    rw [List.flatMap_cons, ih, ← same]
    simp [Piece.source, Mark.char, plain]
  | case5 rest _ ih => rw [List.flatMap_cons, ih]; rfl

theorem source_literals (text : List Char) :
    (literals text).flatMap Segment.source = text := by
  cases text with
  | nil => rfl
  | cons c rest => simp [literals, Segment.source]

theorem source_token (directive : List Char) :
    (Segment.token (carried directive)).source = (Piece.token directive).source := by
  cases directive with
  | nil => rfl
  | cons c rest => simp [carried, Segment.source, Segment.chars, Piece.source]

/-- Joining text moves none either. -/
theorem source_join (before : List Char) (ps : List Piece) :
    (join before ps).flatMap Segment.source = before ++ ps.flatMap Piece.source := by
  fun_induction join before ps with
  | case1 before => rw [source_literals, List.flatMap_nil, List.append_nil]
  | case2 before c rest ih => rw [ih, List.flatMap_cons, List.append_assoc]; rfl
  | case3 before directive rest ih =>
    rw [List.flatMap_append, source_literals, List.flatMap_cons, List.flatMap_cons, source_token,
      ih, List.nil_append]

/-- The segments of a text, put back as text, are the halved text. -/
theorem source_segments (text : List Char) :
    (segments text).flatMap Segment.source = halved text := by
  rw [segments, source_join, List.nil_append, source_pieces, map_char_marks]

theorem chars_subset_source (segment : Segment) : segment.chars ⊆ segment.source := by
  cases segment with
  | literal text => exact List.Subset.refl _
  | token directive =>
    exact List.subset_cons_of_subset _ (List.subset_append_left _ _)

/-- No character comes out of a reading that did not go into it. -/
theorem mem_of_mem_segments {text : List Char} {segment : Segment} {x : Char}
    (hs : segment ∈ segments text) (h : x ∈ segment.chars) : x ∈ text := by
  have mem : x ∈ (segments text).flatMap Segment.source :=
    List.mem_flatMap.2 ⟨segment, hs, chars_subset_source segment h⟩
  rw [source_segments] at mem
  exact (halved_sublist text).subset mem

end Reading

namespace Template

/-- **Compiling keeps the text.** The segments of a message, each literal as its text and each token
as its directive between braces, are the message with the runs of backslashes before its braces
halved, and nothing else changed. -/
theorem source_compile (raw : String) :
    (compile raw).source = String.ofList (Reading.halved raw.toList) := by
  rw [compile_eq_ofSegments, source, ofSegments, Reading.source_segments]

end Template
end InteractiveMobs
