import InteractiveMobs.Proofs.Template.Conservation

/-!
# Text that goes on

What more text at the end of a message can change. Two things wait for it: backslashes at the end,
and a delimiter `{` that no delimiter is behind. Tokens are complete before that, so they stay as
they are, and where nothing waits the two texts are read each on its own (`compile_append`).

Each of the three readings is cut in two: `marks_append_split` before the backslashes that wait,
`pieces_append` at any place that no token lies across, and `join_append` anywhere, as literals
that meet are fused.
-/

namespace InteractiveMobs
set_option autoImplicit false

/-- Segments and what comes behind them, where two literals that meet become one. -/
def fuse (first second : List Segment) : List Segment :=
  match first.getLast?, second with
  | some (.literal text), .literal text' :: rest =>
    first.dropLast ++ .literal (text ++ text') :: rest
  | _, _ => first ++ second

/-- Nothing changes up to a token. -/
theorem fuse_token (before first second : List Segment) (directive : Option String) :
    fuse (before ++ .token directive :: first) second =
      before ++ .token directive :: fuse first second := by
  rcases List.eq_nil_or_concat first with rfl | ⟨init, last, rfl⟩
  · simp [fuse]
  · have whole : before ++ .token directive :: (init ++ [last]) =
        (before ++ .token directive :: init) ++ [last] := by simp
    rw [List.concat_eq_append, whole]
    unfold fuse
    rw [List.getLast?_concat, List.getLast?_concat, List.dropLast_concat, List.dropLast_concat]
    split <;> simp

namespace Reading

/-! ## Marks of texts -/

/-- Reading settles a text up to the backslashes at its end; these wait for what is behind. -/
theorem marks_append_split (text : List Char) :
    ∃ settled n, List.replicate n '\\' <:+ text ∧
      ∀ behind, marks (text ++ behind) = settled ++ marks (List.replicate n '\\' ++ behind) := by
  induction text using run_induction with
  | run n => exact ⟨[], n, List.suffix_refl _, fun _ => rfl⟩
  | char n c rest hc ih =>
    obtain ⟨settled, m, run, split⟩ := ih
    refine ⟨afterRun n c ++ settled, m, ?_, fun behind => ?_⟩
    · exact run.trans ((List.suffix_cons c rest).trans (List.suffix_append _ _))
    · rw [List.append_assoc, List.cons_append, marks_run_char hc, split, List.append_assoc]

/-- Texts are marked each on its own, unless the first one ends with a backslash. -/
theorem marks_append {text : List Char} (h : text.getLast? ≠ some '\\') (behind : List Char) :
    marks (text ++ behind) = marks text ++ marks behind := by
  obtain ⟨settled, n, run, split⟩ := marks_append_split text
  obtain rfl : n = 0 := by
    cases n with
    | zero => rfl
    | succ n =>
      obtain ⟨init, rfl⟩ := run
      simp [List.replicate_succ'] at h
  have alone := split []
  rw [List.replicate_zero, List.append_nil, List.nil_append, marks_nil, List.append_nil] at alone
  rw [split, ← alone]
  rfl

/-! ## Pieces of marks -/

/-- Whether a mark is a delimiter. -/
def Mark.isDelimiter : Mark → Bool
  | text _ => false
  | opening | closing => true

/-- A delimiter `{` is open at the end of the marks: no delimiter is behind it. -/
def LeavesOpen (ms : List Mark) : Prop := ms.reverse.find? Mark.isDelimiter = some .opening

instance (ms : List Mark) : Decidable (LeavesOpen ms) := inferInstanceAs (Decidable (_ = _))

theorem LeavesOpen.cons {ms : List Mark} (h : LeavesOpen ms) (m : Mark) : LeavesOpen (m :: ms) := by
  unfold LeavesOpen at h ⊢
  rw [List.reverse_cons, List.find?_append, h]
  rfl

theorem LeavesOpen.append {ms : List Mark} (h : LeavesOpen ms) (before : List Mark) :
    LeavesOpen (before ++ ms) := by
  induction before with
  | nil => exact h
  | cons m before ih => exact ih.cons m

theorem leavesOpen_opening {ms : List Mark} (h : ms.find? Mark.isDelimiter = none) :
    LeavesOpen (.opening :: ms) := by
  have plain : ms.reverse.find? Mark.isDelimiter = none :=
    List.find?_eq_none.2 fun m mem => List.find?_eq_none.1 h m (List.mem_reverse.1 mem)
  rw [LeavesOpen, List.reverse_cons, List.find?_append, plain]
  rfl

/-- Marks without a delimiter are text. -/
theorem eq_text_of_forall {ms : List Mark} (h : ∀ m ∈ ms, m.isDelimiter = false) :
    ∃ text, ms = List.map .text text := by
  induction ms with
  | nil => exact ⟨[], rfl⟩
  | cons m rest ih =>
    obtain ⟨text, rfl⟩ := ih fun m' mem => h m' (List.mem_cons_of_mem _ mem)
    cases m with
    | text c => exact ⟨c :: text, rfl⟩
    | opening => cases h _ List.mem_cons_self
    | closing => cases h _ List.mem_cons_self

/-- The open delimiter, with what is before it and the text behind it. -/
theorem LeavesOpen.split {ms : List Mark} (h : LeavesOpen ms) :
    ∃ before inside, ms = before ++ .opening :: List.map .text inside := by
  obtain ⟨-, behind, before, split, plain⟩ := List.find?_eq_some_iff_append.1 h
  obtain ⟨inside, rfl⟩ := eq_text_of_forall fun m mem => by simpa using plain m mem
  refine ⟨before.reverse, inside.reverse, ?_⟩
  rw [← List.reverse_reverse ms, split]
  simp

theorem head?_beforeDelimiter (ms : List Mark) :
    (beforeDelimiter ms).2.head? = ms.find? Mark.isDelimiter := by
  fun_induction beforeDelimiter ms with
  | case1 c rest ih => exact ih
  | case2 ms notText =>
    cases ms with
    | nil => rfl
    | cons m rest =>
      cases m with
      | text c => exact absurd rfl (notText c rest)
      | opening => rfl
      | closing => rfl

/-- A delimiter `{` is text if the next delimiter is no `}`. -/
theorem pieces_opening {ms : List Mark} (h : ms.find? Mark.isDelimiter ≠ some .closing) :
    pieces (.opening :: ms) = .text '{' :: pieces ms := by
  rw [← head?_beforeDelimiter] at h
  rw [pieces]
  split
  next directive after found =>
    rw [found] at h
    exact absurd rfl h
  next => rfl

/-- Tokens are found on either side of a place that no token lies across. -/
theorem pieces_append {ms behind : List Mark}
    (h : LeavesOpen ms → behind.find? Mark.isDelimiter ≠ some .closing) :
    pieces (ms ++ behind) = pieces ms ++ pieces behind := by
  fun_induction pieces ms with
  | case1 => rfl
  | case2 c rest ih =>
    rw [List.cons_append, pieces, ih fun opened => h (opened.cons _), List.cons_append]
  | case3 rest ih =>
    rw [List.cons_append, pieces, ih fun opened => h (opened.cons _), List.cons_append]
  | case4 rest directive after found ih =>
    have whole := beforeDelimiter_eq rest
    rw [found] at whole
    rw [← whole] at h ⊢
    -- the token is complete, so what is open is open behind it
    rw [List.cons_append, List.append_assoc, List.cons_append, pieces_token, List.cons_append,
      ih fun opened => h (((opened.cons _).append _).cons _)]
  | case5 rest other ih =>
    -- the next delimiter is in `rest`, where it is no `}`, or else this one is open
    have unclosed : (rest ++ behind).find? Mark.isDelimiter ≠ some .closing := by
      rw [List.find?_append]
      cases next : rest.find? Mark.isDelimiter with
      | none => exact h (leavesOpen_opening next)
      | some m =>
        rintro ⟨⟩
        rw [← head?_beforeDelimiter] at next
        obtain ⟨after, split⟩ := List.head?_eq_some_iff.1 next
        exact other _ after (Prod.ext rfl split)
    rw [List.cons_append, pieces_opening unclosed, ih fun opened => h (opened.cons _),
      List.cons_append]

/-! ## Segments of pieces -/

/-- Text is fused with text, whatever comes behind it that is no text. -/
theorem fuse_literals (text text' : List Char) {rest : List Segment}
    (h : ∀ segment ∈ rest.head?, segment.isToken) :
    fuse (literals text) (literals text' ++ rest) = literals (text ++ text') ++ rest := by
  cases text with
  | nil => rfl
  | cons c text =>
    cases text' with
    | cons c' text' => simp [literals, fuse, String.append_assoc]
    | nil =>
      cases rest with
      | nil => simp [literals, fuse]
      | cons segment rest =>
        cases segment with
        | literal text' => cases h _ rfl
        | token directive => simp [literals, fuse]

/-- Text before pieces is fused with the text that they begin with. -/
theorem join_append_left (text before : List Char) (ps : List Piece) :
    join (text ++ before) ps = fuse (literals text) (join before ps) := by
  fun_induction join before ps with
  | case1 before =>
    have alone := @fuse_literals text before [] (by simp)
    rw [join]
    simpa using alone.symm
  | case2 before c rest ih => rw [join, List.append_assoc, ih]
  | case3 before directive rest ih =>
    rw [join, fuse_literals text before (by simp [Segment.isToken])]

/-- Pieces are joined on either side of any place, and what meets there is fused. -/
theorem join_append (before : List Char) (ps behind : List Piece) :
    join before (ps ++ behind) = fuse (join before ps) (join [] behind) := by
  fun_induction join before ps with
  | case1 before => rw [List.nil_append, ← join_append_left, List.append_nil]
  | case2 before c rest ih => rw [List.cons_append, join, ih]
  | case3 before directive rest ih => rw [List.cons_append, join, ih, fuse_token]

/-! ## Directives -/

/-- What a token carries. -/
def Piece.directive? : Piece → Option (Option String)
  | text _ => none
  | token directive => some (carried directive)

theorem directives_join (before : List Char) (ps : List Piece) :
    (Template.ofSegments (join before ps)).directives = ps.filterMap Piece.directive? := by
  have none_literal (text : List Char) (rest : List Segment) :
      (Template.ofSegments (literals text ++ rest)).directives =
        (Template.ofSegments rest).directives := by
    cases text <;> rfl
  fun_induction join before ps with
  | case1 before =>
    have alone := none_literal before []
    rwa [List.append_nil] at alone
  | case2 before c rest ih => rw [ih]; rfl
  | case3 before directive rest ih =>
    rw [none_literal]
    exact congrArg (carried directive :: ·) ih

/-- Text has no tokens. -/
theorem directives_text (text : List Char) :
    (pieces (text.map .text)).filterMap Piece.directive? = [] := by
  have same := pieces_text text []
  rw [List.append_nil, pieces, List.append_nil] at same
  rw [same, List.filterMap_map]
  exact List.filterMap_eq_nil_iff.2 fun _ _ => rfl

/-- Nor has text behind a delimiter `{`. -/
theorem directives_opening (text : List Char) :
    (pieces (.opening :: text.map .text)).filterMap Piece.directive? = [] := by
  have no_delimiter : (text.map Mark.text).find? Mark.isDelimiter ≠ some .closing := by simp
  rw [pieces_opening no_delimiter]
  exact directives_text text

/-- The tokens among marks with nothing but text behind them stay if there is more. -/
theorem directives_prefix (ms : List Mark) (text : List Char) (more : List Mark) :
    (pieces (ms ++ text.map .text)).filterMap Piece.directive? <+:
      (pieces (ms ++ more)).filterMap Piece.directive? := by
  by_cases opened : LeavesOpen ms
  · obtain ⟨before, inside, rfl⟩ := opened.split
    -- what is before the open delimiter is read on its own, and no token is behind it
    have cut (behind : List Mark) :
        pieces (before ++ .opening :: inside.map .text ++ behind) =
          pieces before ++ pieces (.opening :: (inside.map .text ++ behind)) := by
      rw [List.append_assoc, List.cons_append]
      exact pieces_append fun _ => by simp [Mark.isDelimiter]
    rw [cut, cut, ← List.map_append, List.filterMap_append, directives_opening, List.append_nil,
      List.filterMap_append]
    exact List.prefix_append _ _
  · rw [pieces_append (absurd · opened), pieces_append (absurd · opened), List.filterMap_append,
      directives_text, List.append_nil, List.filterMap_append]
    exact List.prefix_append _ _

end Reading

namespace Template

theorem directives_compile (raw : String) :
    (compile raw).directives =
      (Reading.pieces (Reading.marks raw.toList)).filterMap Reading.Piece.directive? := by
  rw [compile_eq_ofSegments]
  exact Reading.directives_join [] _

/-- **More text leaves alone what is complete.** The tokens of a message stay as they are, in front
of those that more text makes. If the message does not end with a backslash and leaves no delimiter
open, all its segments stay, and the text at its end is joined to the text that comes behind it. -/
theorem compile_append (a b : String) :
    (compile a).directives <+: (compile (a ++ b)).directives ∧
      (a.toList.getLast? ≠ some '\\' → ¬ Reading.LeavesOpen (Reading.marks a.toList) →
        (compile (a ++ b)).segments = fuse (compile a).segments (compile b).segments) := by
  constructor
  · obtain ⟨settled, n, -, split⟩ := Reading.marks_append_split a.toList
    have alone := split []
    rw [List.append_nil, List.append_nil, Reading.marks_run, ← List.map_replicate] at alone
    rw [directives_compile, directives_compile, String.toList_append, split, alone]
    exact Reading.directives_prefix _ _ _
  · intro settled closed
    rw [compile_eq_ofSegments, compile_eq_ofSegments, compile_eq_ofSegments, String.toList_append]
    show Reading.join _ _ = fuse (Reading.join _ _) (Reading.join _ _)
    rw [Reading.marks_append settled, Reading.pieces_append (absurd · closed), Reading.join_append]

/-- A message with an abandoned opener and an escaped one, and more text that begins with an escaped
brace. -/
theorem compile_append_escaped :
    let a := "\x7bx\x7b&e\x7d\\\x7b y\x7d"
    let b := "\\\x7bz\x7b\x7d \x7b"
    a.toList.getLast? ≠ some '\\' ∧ ¬ Reading.LeavesOpen (Reading.marks a.toList) ∧
      (compile a).directives <+: (compile (a ++ b)).directives ∧
      (compile (a ++ b)).segments = [.literal "\x7bx", .token (some "&e"),
        .literal "\x7b y\x7d\x7bz", .token none, .literal " \x7b"] := by
  have settled : "\x7bx\x7b&e\x7d\\\x7b y\x7d".toList.getLast? ≠ some '\\' := by decide
  have closed : ¬ Reading.LeavesOpen
      (Reading.marks "\x7bx\x7b&e\x7d\\\x7b y\x7d".toList) := by decide +kernel
  obtain ⟨kept, joined⟩ := compile_append "\x7bx\x7b&e\x7d\\\x7b y\x7d" "\\\x7bz\x7b\x7d \x7b"
  exact ⟨settled, closed, kept, (joined settled closed).trans (by decide)⟩

/-- A delimiter that is open at the end is text until a `}` comes: the segments change, and the
directives before it do not. -/
example : (compile "\x7b&e\x7d \x7bx").segments = [.token (some "&e"), .literal " \x7bx"] ∧
    (compile "\x7b&e\x7d \x7bx\x7d").segments =
      [.token (some "&e"), .literal " ", .token (some "x")] := by
  decide

end Template
end InteractiveMobs
