import InteractiveMobs.Template.Compile
import Mathlib.Data.List.Chain
import Mathlib.Tactic.SplitIfs

/-!
# The reading of message text

What a message text means, said with the whole text in view and not with the state that
compiling keeps on its way. The text is read three times. `marks` settles the backslashes
before braces, so that what is left is text and delimiters. `pieces` finds the tokens: a
delimiter `{` whose next delimiter is a `}`. `segments` joins the text between tokens.

The main statement is `compile_eq_reading`: compiling a text gives its reading. Compiling is
one pass, and `Draft.reading` says what the draft stands for at each character of it: the
segments that are finished, then the reading of all that is still open and of the text ahead.
-/

namespace InteractiveMobs.Reading
set_option autoImplicit false

/-- A character of message text once backslashes are settled. -/
inductive Mark where
  /-- A character that stands for itself. -/
  | text (c : Char)
  /-- A delimiter `{`. -/
  | opening
  /-- A delimiter `}`. -/
  | closing
deriving DecidableEq, Repr

/-- Whether a character is a brace. -/
def isBrace (c : Char) : Bool := c = '{' || c = '}'

/-- The delimiter that a brace is when it is not escaped. -/
def delimiter (brace : Char) : Mark := if brace = '{' then .opening else .closing

/-- What a run of `n` backslashes and the character behind it stand for. Before a brace every
two backslashes stand for one, and an odd one makes the brace text. -/
def afterRun (n : Nat) (c : Char) : List Mark :=
  if isBrace c then
    List.replicate (n / 2) (.text '\\') ++ [if n % 2 = 1 then .text c else delimiter c]
  else List.replicate n (.text '\\') ++ [.text c]

theorem length_lt_of_dropWhile {text rest : List Char} {c : Char}
    (h : text.dropWhile (· = '\\') = c :: rest) : rest.length < text.length := by
  have le := (List.dropWhile_sublist (· = '\\') : (text.dropWhile _).Sublist text).length_le
  rw [h, List.length_cons] at le
  omega

/-- The marks of a text: it is cut into maximal runs of backslashes, each with the character
behind it; a run at the end of the text has none. -/
def marks (text : List Char) : List Mark :=
  let run := text.takeWhile (· = '\\')
  match _h : text.dropWhile (· = '\\') with
  | [] => List.replicate run.length (.text '\\')
  | c :: rest => afterRun run.length c ++ marks rest
termination_by text.length
decreasing_by exact length_lt_of_dropWhile _h

/-- Text, or a token with all that stands between its delimiters. -/
inductive Piece where
  | text (c : Char)
  | token (directive : List Char)
deriving DecidableEq, Repr

/-- Whether a piece is a token. -/
def Piece.isToken : Piece → Bool
  | text _ => false
  | token _ => true

/-- The text before the next delimiter, and the marks from that delimiter on. -/
def beforeDelimiter : List Mark → List Char × List Mark
  | .text c :: rest => (c :: (beforeDelimiter rest).1, (beforeDelimiter rest).2)
  | rest => ([], rest)

theorem beforeDelimiter_length_le (ms : List Mark) :
    (beforeDelimiter ms).2.length ≤ ms.length := by
  fun_induction beforeDelimiter ms with
  | case1 c rest ih => simp only [List.length_cons]; omega
  | case2 => exact Nat.le_refl _

/-- The pieces of a list of marks: an opening delimiter whose next delimiter is a closing one
makes a token with it, and any other delimiter is text. -/
def pieces : List Mark → List Piece
  | [] => []
  | .text c :: rest => .text c :: pieces rest
  | .closing :: rest => .text '}' :: pieces rest
  | .opening :: rest =>
    match _h : beforeDelimiter rest with
    | (directive, .closing :: after) => .token directive :: pieces after
    | _ => .text '{' :: pieces rest
termination_by ms => ms.length
decreasing_by
  all_goals simp only [List.length_cons]
  all_goals first
    | omega
    | have le := beforeDelimiter_length_le rest
      rw [_h] at le
      simp only [List.length_cons] at le
      omega

/-- The text as one literal; empty text makes none. -/
def literals : List Char → List Segment
  | [] => []
  | text => [.literal (String.ofList text)]

/-- The directive of a token; an empty one is none. -/
def carried : List Char → Option String
  | [] => none
  | text => some (String.ofList text)

/-- The segments of a list of pieces, with `before` as the text that stands before them. -/
def join (before : List Char) : List Piece → List Segment
  | [] => literals before
  | .text c :: rest => join (before ++ [c]) rest
  | .token directive :: rest => literals before ++ .token (carried directive) :: join [] rest

/-- The segments a message text stands for. -/
def segments (text : List Char) : List Segment := join [] (pieces (marks text))

/-! ## Marks of runs -/

/-- A text is a run of backslashes, or a run, a character behind it and a text behind that. -/
@[elab_as_elim]
theorem run_induction {motive : List Char → Prop} (run : ∀ n, motive (List.replicate n '\\'))
    (char : ∀ n c rest, c ≠ '\\' → motive rest → motive (List.replicate n '\\' ++ c :: rest))
    (text : List Char) : motive text := by
  have behind : ∀ n, motive (List.replicate n '\\' ++ text) := by
    induction text with
    | nil =>
      intro n
      rw [List.append_nil]
      exact run n
    | cons c rest ih =>
      intro n
      by_cases hc : c = '\\'
      · have longer := ih (n + 1)
        rw [List.replicate_succ', List.append_assoc] at longer
        rw [hc]
        exact longer
      · exact char n c rest hc (ih 0)
  exact behind 0

theorem takeWhile_run {c : Char} (hc : c ≠ '\\') (n : Nat) (rest : List Char) :
    (List.replicate n '\\' ++ c :: rest).takeWhile (· = '\\') = List.replicate n '\\' := by
  rw [List.takeWhile_append_of_pos (by simp)]
  simp [hc]

theorem dropWhile_run {c : Char} (hc : c ≠ '\\') (n : Nat) (rest : List Char) :
    (List.replicate n '\\' ++ c :: rest).dropWhile (· = '\\') = c :: rest := by
  rw [List.dropWhile_append_of_pos (by simp)]
  simp [hc]

/-- A maximal run and the character behind it are read on their own. -/
theorem marks_run_char {c : Char} (hc : c ≠ '\\') (n : Nat) (rest : List Char) :
    marks (List.replicate n '\\' ++ c :: rest) = afterRun n c ++ marks rest := by
  rw [marks]
  split
  next none => simp [dropWhile_run hc] at none
  next c' rest' found =>
    rw [dropWhile_run hc] at found
    obtain ⟨rfl, rfl⟩ := List.cons.inj found
    rw [takeWhile_run hc, List.length_replicate]

theorem marks_run (n : Nat) :
    marks (List.replicate n '\\') = List.replicate n (.text '\\') := by
  rw [marks]
  split
  next => simp
  next c rest found => simp at found

theorem marks_nil : marks [] = [] := marks_run 0

/-! ## Pieces of marks -/

theorem beforeDelimiter_text (t : List Char) (ms : List Mark) :
    beforeDelimiter (t.map .text ++ ms) =
      (t ++ (beforeDelimiter ms).1, (beforeDelimiter ms).2) := by
  induction t with
  | nil => rfl
  | cons c t ih => simp [beforeDelimiter, ih]

theorem pieces_text (t : List Char) (ms : List Mark) :
    pieces (t.map .text ++ ms) = t.map .text ++ pieces ms := by
  induction t with
  | nil => rfl
  | cons c t ih => simp [pieces, ih]

theorem pieces_token (t : List Char) (ms : List Mark) :
    pieces (.opening :: (t.map .text ++ .closing :: ms)) = .token t :: pieces ms := by
  have found : beforeDelimiter (t.map .text ++ .closing :: ms) = (t, .closing :: ms) := by
    simp [beforeDelimiter_text, beforeDelimiter]
  rw [pieces]
  split
  next directive after found' =>
    rw [found] at found'
    simp_all
  next none => exact absurd found (none t ms)

/-- A delimiter `{` that meets another one, or the end, is text. -/
theorem pieces_abandoned (t : List Char) {ms : List Mark} (h : ∀ m ∈ ms.head?, m = .opening) :
    pieces (.opening :: (t.map .text ++ ms)) = .text '{' :: (t.map .text ++ pieces ms) := by
  have found : beforeDelimiter (t.map .text ++ ms) = (t, ms) := by
    rw [beforeDelimiter_text]
    cases ms with
    | nil => simp [beforeDelimiter]
    | cons m ms =>
      obtain rfl := h m rfl
      simp [beforeDelimiter]
  rw [pieces]
  split
  next directive after found' =>
    rw [found] at found'
    obtain ⟨-, rfl⟩ := Prod.mk.inj found'
    simp at h
  next => rw [pieces_text]

/-! ## Segments of pieces -/

theorem literals_of_ne_nil {t : List Char} (h : t ≠ []) :
    literals t = [.literal (String.ofList t)] := by
  unfold literals
  split
  next => contradiction
  next => rfl

theorem carried_of_ne_nil {t : List Char} (h : t ≠ []) :
    carried t = some (String.ofList t) := by
  unfold carried
  split
  next => contradiction
  next => rfl

theorem join_text (before t : List Char) (ps : List Piece) :
    join before (t.map .text ++ ps) = join (before ++ t) ps := by
  induction t generalizing before with
  | nil => simp
  | cons c t ih => simp [join, ih]

theorem countP_literals (t : List Char) : (literals t).countP Segment.isToken = 0 := by
  unfold literals
  split <;> rfl

theorem countP_join (before : List Char) (ps : List Piece) :
    (join before ps).countP Segment.isToken = ps.countP Piece.isToken := by
  fun_induction join before ps with
  | case1 before => exact countP_literals before
  | case2 before c rest ih => simpa [Piece.isToken] using ih
  | case3 before directive rest ih =>
    rw [List.countP_append, countP_literals, List.countP_cons, List.countP_cons, ih, Nat.zero_add]
    rfl

/-- No two literals of a reading are neighbours. -/
theorem isChain_join (before : List Char) (ps : List Piece) :
    (join before ps).IsChain fun a b => a.isToken ∨ b.isToken := by
  fun_induction join before ps with
  | case1 before =>
    cases before with
    | nil => exact .nil
    | cons c t => exact .singleton _
  | case2 before c rest ih => exact ih
  | case3 before directive rest ih =>
    have behind : (Segment.token (carried directive) :: join [] rest).IsChain
        fun a b => a.isToken ∨ b.isToken :=
      List.isChain_cons.2 ⟨fun _ _ => .inl rfl, ih⟩
    cases before with
    | nil => exact behind
    | cons c t =>
      refine List.isChain_cons.2 ⟨?_, behind⟩
      rintro _ ⟨⟩
      exact .inr rfl

theorem isChain_segments (text : List Char) :
    (segments text).IsChain fun a b => a.isToken ∨ b.isToken :=
  isChain_join [] _

end InteractiveMobs.Reading

namespace InteractiveMobs.Draft
set_option autoImplicit false
open Reading

/-- The marks of a directive that waits. -/
def waiting (draft : Draft) : List Mark :=
  match draft.directive with
  | none => []
  | some text => .opening :: text.reverse.map .text

/-- The segments a draft stands for with the given marks ahead of it. -/
def reading (draft : Draft) (ahead : List Mark) : List Segment :=
  draft.segments.reverse ++ join draft.literal.reverse (pieces (draft.waiting ++ ahead))

theorem reading_write (draft : Draft) (newest : List Char) (ahead : List Mark) :
    (draft.write newest).reading ahead = draft.reading (newest.reverse.map .text ++ ahead) := by
  unfold write
  split
  next text h => simp [reading, waiting, h]
  next h =>
    simp only [reading, waiting, h, List.nil_append, List.reverse_append]
    rw [pieces_text, join_text]

theorem reading_settle (draft : Draft) (n : Nat) (ahead : List Mark) :
    (draft.settle n).reading ahead = draft.reading (List.replicate n (.text '\\') ++ ahead) := by
  have settled : (draft.settle n).reading ahead =
      (draft.write (List.replicate n '\\')).reading ahead := rfl
  rw [settled, reading_write, List.reverse_replicate, List.map_replicate]

/-- Giving up a directive is right where no delimiter `}` comes first. -/
theorem reading_abandon (draft : Draft) {ahead : List Mark}
    (h : ∀ m ∈ ahead.head?, m = .opening) : draft.abandon.reading ahead = draft.reading ahead := by
  unfold abandon
  split
  next => rfl
  next text waits =>
    simp only [reading, waiting, waits, List.cons_append, List.nil_append]
    rw [pieces_abandoned _ h]
    have same := join_text draft.literal.reverse ('{' :: text.reverse) (pieces ahead)
    simpa using same.symm

theorem reading_openToken (draft : Draft) (ahead : List Mark) :
    draft.openToken.reading ahead = draft.reading (.opening :: ahead) := by
  have none_waits : draft.abandon.directive = none := by
    unfold abandon
    split
    next h => exact h
    next => rfl
  have abandoned : draft.abandon.reading (.opening :: ahead) = draft.reading (.opening :: ahead) :=
    draft.reading_abandon (by simp)
  rw [← abandoned]
  simp [openToken, reading, waiting, none_waits]

/-- Ending the literal text moves it to the finished segments. -/
theorem segments_endLiteral (draft : Draft) :
    draft.endLiteral.segments.reverse =
      draft.segments.reverse ++ literals draft.literal.reverse := by
  unfold endLiteral
  split
  next h => simp [h, literals]
  next h =>
    rw [literals_of_ne_nil (by simpa using h)]
    simp

theorem reading_closeToken (draft : Draft) (ahead : List Mark) :
    draft.closeToken.reading ahead = draft.reading (.closing :: ahead) := by
  unfold closeToken
  split
  next h =>
    rw [reading_write]
    simp [reading, waiting, h, pieces]
  next text h =>
    have carries : (if text.isEmpty then none else some (String.ofList text.reverse)) =
        carried text.reverse := by
      cases text with
      | nil => rfl
      | cons c t => rw [carried_of_ne_nil (by simp)]; rfl
    have literal_gone : draft.endLiteral.literal = [] := by
      unfold endLiteral
      split
      next none => exact none
      next => rfl
    simp only [reading, waiting, h, carries, literal_gone, List.reverse_cons,
      segments_endLiteral, List.cons_append, List.nil_append, List.append_assoc, List.reverse_nil]
    rw [pieces_token, join]

theorem backslashes_write (draft : Draft) (newest : List Char) :
    (draft.write newest).backslashes = draft.backslashes := by
  unfold write
  split <;> rfl

theorem backslashes_settle (draft : Draft) (n : Nat) : (draft.settle n).backslashes = 0 := rfl

theorem backslashes_openToken (draft : Draft) :
    draft.openToken.backslashes = draft.backslashes := by
  unfold openToken abandon
  split <;> rfl

theorem backslashes_closeToken (draft : Draft) :
    draft.closeToken.backslashes = draft.backslashes := by
  unfold closeToken endLiteral
  split
  next => exact draft.backslashes_write _
  next => dsimp only; split <;> rfl

/-- Any character but a backslash settles the backslashes before it. -/
theorem backslashes_step (draft : Draft) {c : Char} (hc : c ≠ '\\') :
    (draft.step c).backslashes = 0 := by
  simp only [step, hc, if_false]
  split_ifs <;>
    simp only [backslashes_write, backslashes_openToken, backslashes_closeToken,
      backslashes_settle]

/-- Any character but a backslash does to a draft what its run and it stand for. -/
theorem reading_step (draft : Draft) {c : Char} (hc : c ≠ '\\') (ahead : List Mark) :
    (draft.step c).reading ahead = draft.reading (afterRun draft.backslashes c ++ ahead) := by
  simp only [step, hc, if_false, afterRun, isBrace, Bool.or_eq_true, decide_eq_true_eq]
  split_ifs with brace odd opens
  · simp [reading_write, reading_settle]
  · rw [reading_openToken, reading_settle]
    simp [delimiter, opens]
  · rw [reading_closeToken, reading_settle]
    simp [delimiter, opens]
  · simp [reading_write, reading_settle]

/-- Reading on keeps what a draft stands for: each character moves what it stands for from the
text ahead into the draft. -/
theorem reading_foldl (draft : Draft) (text : List Char) :
    (text.foldl step draft).reading
        (List.replicate (text.foldl step draft).backslashes (.text '\\')) =
      draft.reading (marks (List.replicate draft.backslashes '\\' ++ text)) := by
  induction text generalizing draft with
  | nil => simp [marks_run]
  | cons c rest ih =>
    rw [List.foldl_cons, ih]
    by_cases hc : c = '\\'
    · subst hc
      have more : (draft.step '\\').backslashes = draft.backslashes + 1 := rfl
      have same : (draft.step '\\').reading = draft.reading := rfl
      rw [more, same, List.replicate_succ', List.append_assoc]
      rfl
    · rw [backslashes_step draft hc, marks_run_char hc, reading_step draft hc]
      rfl

theorem finish_eq (draft : Draft) :
    draft.finish =
      .ofSegments (draft.reading (List.replicate draft.backslashes (.text '\\'))) := by
  have nothing_waits : (draft.settle draft.backslashes).abandon.waiting = [] := by
    unfold abandon
    split
    next h => simp [waiting, h]
    next => rfl
  rw [finish, segments_endLiteral]
  have settled := draft.reading_settle draft.backslashes []
  rw [← reading_abandon _ (by simp)] at settled
  rw [List.append_nil] at settled
  rw [← settled, reading, nothing_waits, List.append_nil, pieces, join]

end InteractiveMobs.Draft

namespace InteractiveMobs.Template
set_option autoImplicit false

theorem compile_eq_ofSegments (raw : String) :
    compile raw = .ofSegments (Reading.segments raw.toList) := by
  rw [compile, Draft.finish_eq, Draft.reading_foldl]
  rfl

/-- A compiled message asks for one argument per token. -/
theorem tokenCount_compile (raw : String) :
    (compile raw).tokenCount = (compile raw).segments.countP Segment.isToken := by
  rw [compile_eq_ofSegments]
  rfl

/-- **Compiling is reading**: the segments of a compiled text are those of its reading, and it
asks for one argument per token that the reading finds. -/
theorem compile_eq_reading (raw : String) :
    (compile raw).segments = Reading.segments raw.toList ∧
      (compile raw).tokenCount =
        (Reading.pieces (Reading.marks raw.toList)).countP Reading.Piece.isToken := by
  rw [compile_eq_ofSegments]
  exact ⟨rfl, Reading.countP_join [] _⟩

/-- An abandoned opener, an escaped brace in a directive, and backslashes at the end. -/
example : compile "\x7ba\x7b\\\\\\\x7db\x7d\\\\" =
    ⟨[.literal "\x7ba", .token (some "\\\x7db"), .literal "\\\\"], 1⟩ := by
  decide

end InteractiveMobs.Template
