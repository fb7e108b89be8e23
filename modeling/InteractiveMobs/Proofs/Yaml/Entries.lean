import InteractiveMobs.Proofs.Yaml.Scanning
import Mathlib.Data.List.Forall2

/-!
# Scanning entries

The lexer reads a scalar in front of a colon, and one that ends a line, as the text it was written
for. From these it reads each entry of a mapping as its key and its value, and all entries of a
mapping one after the other.
-/

namespace InteractiveMobs.Yaml
set_option autoImplicit false
open Writing

/-- The tokens of entries. -/
inductive IsEntries : List (String × String) → List Token → Prop where
  | nil : IsEntries [] []
  | cons {key value : String} {rest : List (String × String)} {tokens : List Token}
    (keyStyle valueStyle : ScalarStyle) (later : IsEntries rest tokens) :
    IsEntries ((key, value) :: rest)
      (.key :: .scalar keyStyle key :: .value :: .scalar valueStyle value :: tokens)

namespace Lexer

variable {position : Position} {tokens : List Token} {indents : List Nat} {keyAllowed : Bool}
  {text written : List Char} {style : ScalarStyle}

/-! ## Possible keys -/

theorem length_lt_append {passed : List Char} (some_text : passed ≠ []) (rest : List Char) :
    rest.length < (passed ++ rest).length := by
  rw [List.length_append]
  exact Nat.lt_add_of_pos_left (List.length_pos_iff.2 some_text)

/-- The possible key that a word makes. -/
def keyOf (keyAllowed : Bool) (indents : List Nat) (tokens : List Token) (position : Position) :
    Option PossibleKey :=
  if keyAllowed then
    some ⟨decide (indents.head? = some position.column), tokens.length, position⟩
  else none

/-- On another line a word is no longer a possible key. -/
theorem refresh_gone {later : Position} (below : position.line < later.line)
    (deeper : indents.head? ≠ some position.column) :
    refresh later (keyOf keyAllowed indents tokens position) = .ok none := by
  cases keyAllowed with
  | false => rfl
  | true => simp [keyOf, refresh, PossibleKey.isStale, below, deeper]

/-- On the same line, and not too far on, a word is still a possible key. -/
theorem refresh_fresh {later : Position} (beside : later.line = position.line)
    (near : later.index ≤ position.index + PossibleKey.maxLength) :
    refresh later (keyOf keyAllowed indents tokens position) =
      .ok (keyOf keyAllowed indents tokens position) := by
  cases keyAllowed with
  | false => rfl
  | true => simp [keyOf, refresh, PossibleKey.isStale, beside, near]

/-! ## Words -/

theorem within_mono {near far : Nat} (within : indents.head?.all (· ≤ near) = true)
    (right : near ≤ far) : indents.head?.all (· ≤ far) = true := by
  cases indents with
  | nil => rfl
  | cons column outer => exact decide_eq_true (Nat.le_trans (of_decide_eq_true within) right)

theorem within_of_lt {column : Nat} (outer : List Nat) (deep : column < position.column) :
    (column :: outer).head?.all (· ≤ position.column) = true :=
  decide_eq_true (Nat.le_of_lt deep)

theorem word_eq (token : Token) (passed rest : List Char) :
    (⟨passed ++ rest, position, tokens, indents, keyAllowed, none, []⟩ : Lexer).word token rest =
      .ok ⟨rest, position.after passed, token :: tokens, indents, false,
        keyOf keyAllowed indents tokens position, []⟩ := by
  cases keyAllowed with
  | false =>
    simp only [word, saveKey, Bool.false_eq_true, if_false, bind, Except.bind, pure, Except.pure,
      emit, keyOf]
    rw [moveTo_append _ rfl]
  | true =>
    simp only [word, saveKey, if_true, dropKey, Option.any_none, Bool.false_eq_true, if_false, bind,
      Except.bind, pure, Except.pure, emit, keyOf, inFlow, List.isEmpty_nil, Bool.not_true,
      Bool.not_false, Bool.true_and]
    rw [moveTo_append _ rfl]

theorem startsMark_eq_false {mark c : Char} (ne : c ≠ mark) (rest : List Char) :
    startsMark mark (c :: rest) = false := by
  match rest with
  | [] | [_] => rfl
  | _ :: _ :: _ => simp [startsMark, ne]

/-- A word that no document mark may be taken for. -/
def Unmarked (position : Position) (text : List Char) : Prop :=
  position.column = 0 → ∀ c ∈ text.head?, c ≠ '-' ∧ c ≠ '.'

/-- A colon, hyphen or question mark that starts a plain scalar does not stand apart. -/
theorem startsSpacing_of_indicator {c : Char} {rest : List Char}
    (plain : Plain.IsText (c :: rest)) (mark : c = '?' ∨ c = ':' ∨ c = '-') (behind : List Char) :
    startsSpacing (rest ++ behind) = false := by
  have indicator := plain.indicator
  simp only [startsIndicator, Bool.or_eq_false_iff] at indicator
  refine startsSpacing_append ?_
  rcases mark with rfl | rfl | rfl <;> simpa using indicator.2

theorem starts_plain {c : Char} {rest : List Char} (plain : Plain.IsText (c :: rest))
    (behind : List Char) : Plain.starts false (c :: (rest ++ behind)) = true := by
  have apart := startsSpacing_of_indicator plain
  have shown := (hasUnprintable_cons.1 plain.shown).1
  have head : c ≠ ' ' := by simpa using plain.head
  have spacing : isSpacing c = false := by
    simp [isSpacing, isBlank_eq shown, head, plain.unbroken c]
  have indicator := plain.indicator
  simp only [startsIndicator, Bool.or_eq_false_iff, decide_eq_false_iff_not] at indicator
  unfold Plain.starts
  dsimp only
  rw [spacing, if_neg Bool.false_ne_true]
  split
  next hyphen =>
    have next := apart (.inr (.inr hyphen)) behind
    cases h : rest ++ behind with
    | nil => rfl
    | cons d more =>
      rw [h, startsSpacing, isSpacing, Bool.or_eq_false_iff] at next
      simp [next.1]
  next =>
    split
    next mark =>
      simp only [Bool.or_eq_true, decide_eq_true_eq] at mark
      simp [apart (or_assoc.1 (.inl mark)) behind]
    next => simp [Plain.isFlowIndicator, indicator]

theorem token_plain {c : Char} {rest : List Char} (plain : Plain.IsText (c :: rest))
    (unmarked : Unmarked position (c :: rest)) (behind : List Char) :
    let lexer : Lexer :=
      ⟨c :: (rest ++ behind), position, tokens, indents, keyAllowed, none, []⟩
    lexer.token c (rest ++ behind) = lexer.plainScalar := by
  intro lexer
  have starts := starts_plain plain behind
  have apart := startsSpacing_of_indicator plain
  have indicator := plain.indicator
  simp only [startsIndicator, Bool.or_eq_false_iff, decide_eq_false_iff_not] at indicator
  have marks (mark : Char) (other : position.column = 0 → c ≠ mark) :
      (decide (position.column = 0) && startsMark mark (c :: (rest ++ behind))) = false := by
    by_cases margin : position.column = 0
    · simp [startsMark_eq_false (other margin)]
    · simp [margin]
  have hyphens := marks '-' fun margin => (unmarked margin c rfl).1
  have dots := marks '.' fun margin => (unmarked margin c rfl).2
  have alone (mark : Char) (is : mark = '?' ∨ mark = ':' ∨ mark = '-') :
      ¬ (c = mark ∧ startsSpacing (rest ++ behind) = true) := by
    rintro ⟨rfl, spacing⟩
    rw [apart is] at spacing
    cases spacing
  have hyphen := alone '-' (by decide)
  have question := alone '?' (by decide)
  have colon := alone ':' (by decide)
  unfold token
  simp only [lexer, inFlow, List.isEmpty_nil, Bool.not_true, Bool.false_or, Bool.and_eq_true,
    decide_eq_true_eq, hyphens, dots, indicator, hyphen, question, colon, starts, and_false,
    false_and, if_false, if_true, Bool.false_eq_true]

/-- The least column at which the lines of a plain scalar go on. -/
def plainIndent (indents : List Nat) : Nat :=
  match indents.head? with
  | some column => column + 1
  | none => 0

theorem plainScalar_eq {passed rest : List Char} {crossedBreak : Bool}
    (read : Plain.read false (plainIndent indents) .none [] (passed ++ rest) =
      .ok ⟨text, rest, crossedBreak⟩) :
    (⟨passed ++ rest, position, tokens, indents, keyAllowed, none, []⟩ : Lexer).plainScalar =
      .ok ⟨rest, position.after passed, .scalar .plain (String.ofList text) :: tokens, indents,
        crossedBreak, keyOf keyAllowed indents tokens position, []⟩ := by
  cases indents with
  | nil =>
    simp only [plainIndent, List.head?_nil] at read
    simp only [plainScalar, inFlow, List.isEmpty_nil, Bool.not_true, List.head?_nil, read, word_eq,
      bind, Except.bind, pure, Except.pure]
  | cons column outer =>
    simp only [plainIndent, List.head?_cons] at read
    simp only [plainScalar, inFlow, List.isEmpty_nil, Bool.not_true, List.head?_cons, read, word_eq,
      bind, Except.bind, pure, Except.pure]

theorem read_single {behind : List Char} (flat : '\n' ∉ text) (allowed : singleAllowed text = true)
    {d : Char} (other : d ≠ '\'') :
    SingleQuoted.read .none [] (singleBody false text ++ d :: behind) =
      .ok (text, d :: behind) := by
  simp only [singleAllowed, Bool.not_eq_true', Bool.or_eq_false_iff] at allowed
  have fits : SingleQuoted.Fits .none text := trivial
  exact SingleQuoted.read_body allowed.2 flat allowed.1.1 allowed.1.2 fits other [] behind

theorem token_single (flat : '\n' ∉ text) (allowed : singleAllowed text = true) {d : Char}
    (other : d ≠ '\'') (behind : List Char) :
    (⟨single text ++ d :: behind, position, tokens, indents, keyAllowed, none, []⟩ : Lexer).token
        '\'' (singleBody false text ++ d :: behind) =
      .ok ⟨d :: behind, position.after (single text),
        .scalar .singleQuoted (String.ofList text) :: tokens, indents, false,
        keyOf keyAllowed indents tokens position, []⟩ := by
  have marks (mark : Char) (ne : '\'' ≠ mark) :
      startsMark mark (single text ++ d :: behind) = false := startsMark_eq_false ne _
  simp [token, inFlow, read_single flat allowed other, marks, word_eq, bind, Except.bind]

theorem token_double (behind : List Char) :
    (⟨double text ++ behind, position, tokens, indents, keyAllowed, none, []⟩ : Lexer).token
        '"' (text.flatMap doubleChar ++ ['"'] ++ behind) =
      .ok ⟨behind, position.after (double text),
        .scalar .doubleQuoted (String.ofList text) :: tokens, indents, false,
        keyOf keyAllowed indents tokens position, []⟩ := by
  have marks (mark : Char) (ne : '"' ≠ mark) :
      startsMark mark (double text ++ behind) = false := startsMark_eq_false ne _
  have read : DoubleQuoted.read .none .none [] (text.flatMap doubleChar ++ '"' :: behind) =
      .ok (text, behind) := DoubleQuoted.read_body text [] behind
  simp [token, inFlow, read, marks, word_eq, bind, Except.bind]

/-! ## Scalars at the end of a line -/

theorem token_literal (lines : '\n' ∈ text) (allowed : literalAllowed text = true) (n : Nat)
    {next rest : List Char} (continues : Continues 2 (margin n ++ next) next) (outer : List Nat)
    (starts : endLine (literal text) ++ (margin n ++ next) = '|' :: rest) :
    (⟨endLine (literal text) ++ (margin n ++ next), position, tokens, 2 :: outer, keyAllowed, none,
        []⟩ : Lexer).token '|' rest =
      .ok ⟨next, position.after (endLine (literal text) ++ margin n),
        .scalar .literal (String.ofList text) :: tokens, 2 :: outer, true, none, []⟩ := by
  have some_text : text ≠ [] := List.ne_nil_of_mem lines
  simp only [literalAllowed, Bool.not_eq_true', Bool.or_eq_false_iff] at allowed
  have read := Block.read_literal some_text allowed.2 continues
  have whole := endLine_literal some_text
  have rest_eq : rest = literalIndent text ++ literalChomping text ++ '\n' :: (literalBody true text ++
      ((if Block.endsLine true text then [] else ['\n']) ++ (margin n ++ next))) := by
    rw [whole, List.cons_append] at starts
    rw [← (List.cons.inj starts).2]
    simp
  rw [← rest_eq] at read
  have marks (mark : Char) (ne : '|' ≠ mark) :
      startsMark mark (endLine (literal text) ++ (margin n ++ next)) = false := by
    rw [starts]
    exact startsMark_eq_false ne rest
  have behind : (endLine (literal text) ++ (margin n ++ next)).drop 1 = rest := by
    rw [starts]
    rfl
  have moved := moveTo_append
    ⟨endLine (literal text) ++ (margin n ++ next), position,
      .scalar .literal (String.ofList text) :: tokens, 2 :: outer, keyAllowed, none, []⟩
    (List.append_assoc (endLine (literal text)) (margin n) next).symm
  simp [token, inFlow, marks, blockScalar, dropKey, emit, behind, read, moved, bind, Except.bind,
    pure, Except.pure]

theorem spacing_margin {n : Nat} {c : Char} (mem : c ∈ margin n) : c = ' ' ∨ isBreak c = true :=
  .inl (List.eq_of_mem_replicate mem)

theorem atWord_plain (plain : Plain.IsText text) (behind : List Char) :
    atWord (text ++ behind) = true := by
  obtain ⟨c, rest, rfl⟩ := List.exists_cons_of_ne_nil plain.some_text
  have shown := (hasUnprintable_cons.1 plain.shown).1
  have head : c ≠ ' ' := by simpa using plain.head
  have mark : c ≠ byteOrderMark := ne_of_class shown (by decide)
  have indicator := plain.indicator
  simp only [startsIndicator, Bool.or_eq_false_iff, decide_eq_false_iff_not] at indicator
  simp [atWord, startsWord, isSpacing, isBlank_eq shown, head, plain.unbroken c, mark, indicator]

/-- A word that can no longer be a key is forgotten. -/
theorem reaches_here {rest : List Char} {possibleKey : Option PossibleKey}
    (word : atWord rest = true) (gone : refresh position possibleKey = .ok none) :
    Reaches ⟨rest, position, tokens, indents, keyAllowed, possibleKey, []⟩
      ⟨rest, position, tokens, indents, keyAllowed, none, []⟩ := by
  refine reaches_of_spacing ?_ ?_ (Nat.le_refl _)
  · rw [passSpacing_word word, refreshKeys_eq gone rfl]
  · rw [passSpacing_word word, refreshKeys_eq rfl rfl]

/-- A plain scalar at the end of a line of a mapping. -/
theorem reaches_plain_line (plain : Plain.IsText text) {column n : Nat} {next : List Char}
    (continues : Continues column (margin n ++ next) next) (word : atWord next = true)
    (outer : List Nat) (deep : column < position.column) :
    Reaches ⟨text ++ '\n' :: (margin n ++ next), position, tokens, column :: outer, keyAllowed,
        none, []⟩
      ⟨next, position.after (text ++ '\n' :: margin n),
        .scalar .plain (String.ofList text) :: tokens, column :: outer, true, none, []⟩ := by
  have line : isBreak '\n' = true := rfl
  have below := position.after_line text line n
  have read : Plain.read false (plainIndent (column :: outer)) .none []
      ((text ++ '\n' :: margin n) ++ next) = .ok ⟨text, next, true⟩ := by
    rw [List.append_assoc, List.cons_append]
    exact plain.read_line continues (Nat.lt_succ_self column)
  have unmarked : Unmarked position text := fun margin => absurd deep (by omega)
  have here := atWord_plain plain ('\n' :: (margin n ++ next))
  have within := within_of_lt outer deep
  have deeper : (column :: outer).head? ≠ some position.column := by
    simpa using Nat.ne_of_lt deep
  have read_scalar : Reaches ⟨text ++ '\n' :: (margin n ++ next), position, tokens,
        column :: outer, keyAllowed, none, []⟩
      ⟨next, position.after (text ++ '\n' :: margin n),
        .scalar .plain (String.ofList text) :: tokens, column :: outer, true,
        keyOf keyAllowed (column :: outer) tokens position, []⟩ := by
    obtain ⟨c, rest, rfl⟩ := List.exists_cons_of_ne_nil plain.some_text
    have shorter : next.length < (c :: rest ++ '\n' :: (margin n ++ next)).length := by
      simp only [List.length_append, List.length_cons]
      omega
    refine reaches_of_token (settle_word here rfl rfl within) rfl
      ((token_plain plain unmarked _).trans ?_) shorter
    have same : c :: (rest ++ '\n' :: (margin n ++ next)) =
      (c :: rest ++ '\n' :: margin n) ++ next := by simp
    rw [same]
    exact plainScalar_eq read
  exact read_scalar.trans (reaches_here word (refresh_gone below.1 deeper))

/-- A quoted scalar at the end of a line of a mapping. -/
theorem reaches_quoted_line {token : Token} {n : Nat} {next : List Char}
    (word : atWord next = true) (outer : List Nat) {column : Nat} (deep : column < position.column)
    {c : Char} {rest : List Char} (starts : startsWord c = true)
    (read : (⟨c :: rest ++ '\n' :: (margin n ++ next), position, tokens, column :: outer,
        keyAllowed, none, []⟩ : Lexer).token c (rest ++ '\n' :: (margin n ++ next)) =
      .ok ⟨'\n' :: (margin n ++ next), position.after (c :: rest), token :: tokens,
        column :: outer, false, keyOf keyAllowed (column :: outer) tokens position, []⟩) :
    Reaches ⟨c :: rest ++ '\n' :: (margin n ++ next), position, tokens, column :: outer,
        keyAllowed, none, []⟩
      ⟨next, position.after (c :: rest ++ '\n' :: margin n), token :: tokens, column :: outer,
        true, none, []⟩ := by
  have line : isBreak '\n' = true := rfl
  have below := position.after_line (c :: rest) line n
  have here : atWord (c :: rest ++ '\n' :: (margin n ++ next)) = true := starts
  have within := within_of_lt outer deep
  have deeper : (column :: outer).head? ≠ some position.column := by
    simpa using Nat.ne_of_lt deep
  have spacing : ∀ d ∈ '\n' :: margin n, d = ' ' ∨ isBreak d = true := fun d mem => by
    rcases List.mem_cons.1 mem with rfl | mem
    · exact .inr rfl
    · exact spacing_margin mem
  refine (reaches_of_token (settle_word here rfl rfl within) rfl read
    (length_lt_append (List.cons_ne_nil c rest) _)).trans ?_
  rw [Position.after_append] at below ⊢
  exact reaches_word spacing word (refresh_gone below.1 deeper)

/-- A scalar at the end of a line of a mapping below the root. -/
theorem reaches_line (form : Form text style written) {n : Nat} {next : List Char}
    (continues : Continues 2 (margin n ++ next) next) (word : atWord next = true)
    (outer : List Nat) (deep : 2 < position.column) :
    Reaches ⟨endLine written ++ (margin n ++ next), position, tokens, 2 :: outer, keyAllowed, none,
        []⟩
      ⟨next, position.after (endLine written ++ margin n),
        .scalar style (String.ofList text) :: tokens, 2 :: outer, true, none, []⟩ := by
  have inline (other : style ≠ .literal) (n : Nat) (next : List Char) :
      endLine written ++ (margin n ++ next) = written ++ '\n' :: (margin n ++ next) ∧
        endLine written ++ margin n = written ++ '\n' :: margin n := by
    rw [form.endLine_eq other]
    simp
  cases form with
  | plain allowed =>
    rw [(inline nofun n next).1, (inline nofun n next).2]
    exact reaches_plain_line (Plain.isText_of_plainAllowed allowed) continues word outer deep
  | single flat allowed =>
    rw [(inline nofun n next).1, (inline nofun n next).2]
    have quote : '\n' ≠ '\'' := by decide
    exact reaches_quoted_line word outer deep rfl (token_single flat allowed quote _)
  | double =>
    rw [(inline nofun n next).1, (inline nofun n next).2]
    exact reaches_quoted_line word outer deep rfl (token_double _)
  | literal lines allowed =>
    have whole := endLine_literal (List.ne_nil_of_mem lines)
    have starts : ∃ rest, endLine (literal text) ++ (margin n ++ next) = '|' :: rest := by
      rw [whole]
      exact ⟨_, rfl⟩
    obtain ⟨rest, starts⟩ := starts
    have here : atWord (endLine (literal text) ++ (margin n ++ next)) = true := by
      rw [starts]
      rfl
    refine reaches_of_token (settle_word here rfl rfl (within_of_lt outer deep)) starts
      (token_literal lines allowed n continues outer starts) ?_
    rw [whole]
    simp only [List.length_append, List.length_cons]
    omega

/-! ## Keys and values -/

/-- The token that opens a mapping at a column, unless one is open there or further in. -/
def opening (column : Nat) (indents : List Nat) : List Token :=
  if indents.head?.any (column ≤ ·) then [] else [.blockMappingStart]

/-- The columns of the open collections, with a mapping at the given one. -/
def columns (column : Nat) (indents : List Nat) : List Nat :=
  if indents.head?.any (column ≤ ·) then indents else column :: indents

variable {behind : List Char}

theorem skip_one (c : Char) (possibleKey : Option PossibleKey) :
    (⟨c :: behind, position, tokens, indents, keyAllowed, possibleKey, []⟩ : Lexer).skip 1 =
      ⟨behind, position.next c, tokens, indents, keyAllowed, possibleKey, []⟩ := by
  simp [skip, moveTo, Position.after]

theorem emitAfter_eq (front : List Token) (token : Token) (possibleKey : Option PossibleKey) :
    (⟨behind, position, front ++ tokens, indents, keyAllowed, possibleKey, []⟩ : Lexer).emitAfter
        tokens.length token =
      ⟨behind, position, front ++ token :: tokens, indents, keyAllowed, possibleKey, []⟩ := by
  simp [emitAfter]

theorem openBlock_eq (front : List Token) (column : Nat) (possibleKey : Option PossibleKey) :
    (⟨behind, position, front ++ tokens, indents, keyAllowed, possibleKey, []⟩ : Lexer).openBlock
        column tokens.length .blockMappingStart =
      ⟨behind, position, front ++ (opening column indents ++ tokens), columns column indents,
        keyAllowed, possibleKey, []⟩ := by
  rw [openBlock, emitAfter_eq, opening, columns]
  cases indents.head?.any (column ≤ ·) <;> simp [inFlow]

/-- A colon that stands apart makes a key of the word before it. -/
theorem value_key (required : Bool) (token : Token) (start : Position) :
    (⟨':' :: behind, position, token :: tokens, indents, keyAllowed,
        some ⟨required, tokens.length, start⟩, []⟩ : Lexer).value =
      .ok ⟨behind, position.next ':',
        .value :: token :: .key :: (opening start.column indents ++ tokens),
        columns start.column indents, false, none, []⟩ := by
  have keyed : (⟨':' :: behind, position, token :: tokens, indents, keyAllowed,
        some ⟨required, tokens.length, start⟩, []⟩ : Lexer).emitAfter tokens.length .key =
      ⟨':' :: behind, position, token :: .key :: tokens, indents, keyAllowed,
        some ⟨required, tokens.length, start⟩, []⟩ := emitAfter_eq [token] .key _
  have opened : (⟨':' :: behind, position, token :: .key :: tokens, indents, keyAllowed,
        some ⟨required, tokens.length, start⟩, []⟩ : Lexer).openBlock start.column tokens.length
          .blockMappingStart =
      ⟨':' :: behind, position, token :: .key :: (opening start.column indents ++ tokens),
        columns start.column indents, keyAllowed, some ⟨required, tokens.length, start⟩, []⟩ :=
    openBlock_eq [token, .key] _ _
  simp only [value, keyed, opened, emit, skip_one, pure, Except.pure]

/-- A colon that stands apart at the start of a line ends a key that has a mark. -/
theorem value_apart : (⟨':' :: behind, position, tokens, indents, true, none, []⟩ : Lexer).value =
    .ok ⟨behind, position.next ':', .value :: (opening position.column indents ++ tokens),
      columns position.column indents, true, none, []⟩ := by
  have opened : (⟨':' :: behind, position, tokens, indents, true, none, []⟩ : Lexer).openBlock
        position.column tokens.length .blockMappingStart =
      ⟨':' :: behind, position, opening position.column indents ++ tokens,
        columns position.column indents, true, none, []⟩ := openBlock_eq [] _ _
  simp [value, opened, emit, skip_one, inFlow, pure, Except.pure]

theorem explicitKey_eq :
    (⟨'?' :: behind, position, tokens, indents, true, none, []⟩ : Lexer).explicitKey =
      .ok ⟨behind, position.next '?', .key :: (opening position.column indents ++ tokens),
        columns position.column indents, true, none, []⟩ := by
  have opened : (⟨'?' :: behind, position, tokens, indents, true, none, []⟩ : Lexer).openBlock
        position.column tokens.length .blockMappingStart =
      ⟨'?' :: behind, position, opening position.column indents ++ tokens,
        columns position.column indents, true, none, []⟩ := openBlock_eq [] _ _
  simp [explicitKey, opened, emit, skip_one, inFlow, dropKey, bind, Except.bind, pure, Except.pure]

theorem token_value (apart : startsSpacing behind = true) (possibleKey : Option PossibleKey) :
    let lexer : Lexer := ⟨':' :: behind, position, tokens, indents, keyAllowed, possibleKey, []⟩
    lexer.token ':' behind = lexer.value := by
  have marks (mark : Char) (ne : ':' ≠ mark) : startsMark mark (':' :: behind) = false :=
    startsMark_eq_false ne behind
  simp [token, inFlow, apart, marks]

theorem token_explicitKey (apart : startsSpacing behind = true)
    (possibleKey : Option PossibleKey) :
    let lexer : Lexer := ⟨'?' :: behind, position, tokens, indents, keyAllowed, possibleKey, []⟩
    lexer.token '?' behind = lexer.explicitKey := by
  have marks (mark : Char) (ne : '?' ≠ mark) : startsMark mark ('?' :: behind) = false :=
    startsMark_eq_false ne behind
  simp [token, inFlow, apart, marks]

/-- A key on its line, up to the colon behind it. -/
theorem reaches_key (tokens : List Token) (form : Form text style written)
    (unbroken : ∀ c ∈ text, isBreak c = false)
    (near : String.utf8Len written ≤ PossibleKey.maxLength) (unmarked : Unmarked position written)
    (within : indents.head?.all (· ≤ position.column) = true)
    (apart : startsSpacing behind = true) :
    Reaches ⟨written ++ ':' :: behind, position, tokens, indents, true, none, []⟩
      ⟨behind, (position.after written).next ':', .value :: .scalar style (String.ofList text) ::
        .key :: (opening position.column indents ++ tokens), columns position.column indents,
        false, none, []⟩ := by
  obtain ⟨inline, unbroken', -⟩ := form.of_unbroken unbroken
  have after := position.after_unbroken unbroken'
  have read_word : Reaches ⟨written ++ ':' :: behind, position, tokens, indents, true, none, []⟩
      ⟨':' :: behind, position.after written, .scalar style (String.ofList text) :: tokens, indents,
        false, keyOf true indents tokens position, []⟩ := by
    have colon : ':' ≠ '\'' := by decide
    have shorter := length_lt_append form.ne_nil (':' :: behind)
    cases form with
    | plain allowed =>
      have plain := Plain.isText_of_plainAllowed allowed
      have here := atWord_plain plain (':' :: behind)
      have read : Plain.read false (plainIndent indents) .none [] (text ++ ':' :: behind) =
          .ok ⟨text, ':' :: behind, false⟩ := plain.read_key apart
      obtain ⟨c, rest, rfl⟩ := List.exists_cons_of_ne_nil plain.some_text
      exact reaches_of_token (settle_word here rfl rfl within) rfl
        ((token_plain plain unmarked _).trans (plainScalar_eq read)) shorter
    | single flat allowed =>
      exact reaches_of_token (settle_word rfl rfl rfl within) rfl
        (token_single flat allowed colon behind) shorter
    | double =>
      exact reaches_of_token (settle_word rfl rfl rfl within) rfl
        (token_double (':' :: behind)) shorter
    | literal lines allowed => exact absurd rfl inline
  refine read_word.trans ?_
  -- the colon is on the line of the key and near enough, so it makes a key of it
  have fresh : refresh (position.after written) (keyOf true indents tokens position) =
      .ok (keyOf true indents tokens position) := by
    refine refresh_fresh ?_ ?_
    · rw [after]
    · rw [after]
      exact Nat.add_le_add_left near _
  have within' : indents.head?.all (· ≤ (position.after written).column) = true := by
    rw [after]
    exact within_mono within (Nat.le_add_right _ _)
  exact reaches_of_token (settle_word rfl fresh rfl within') rfl
    ((token_value apart _).trans (value_key _ _ position)) (by simp)

/-- A space before a word is passed. -/
theorem reaches_space {rest : List Char} (word : atWord rest = true) :
    Reaches ⟨' ' :: rest, position, tokens, indents, keyAllowed, none, []⟩
      ⟨rest, position.next ' ', tokens, indents, keyAllowed, none, []⟩ := by
  have spacing : ∀ c ∈ [' '], c = ' ' ∨ isBreak c = true := fun c mem =>
    .inl (List.mem_singleton.1 mem)
  have unbroken : keyAllowed = (keyAllowed || [' '].any isBreak) := (Bool.or_false _).symm
  conv => rhs; rw [unbroken]
  exact reaches_word spacing word rfl

/-! ## Entries -/

/-- An entry without its margin. -/
def entryBody (key value : String) : List Char :=
  let key' := scalar key.toList
  let value' := endLine (scalar value.toList)
  if isSimpleKey key then key' ++ ':' :: ' ' :: value'
  else '?' :: ' ' :: (endLine key' ++ (margin 2 ++ ':' :: ' ' :: value'))

theorem entry_eq (key value : String) : entry key value = margin 2 ++ entryBody key value := by
  obtain ⟨_, keyForm⟩ := exists_form key.toList
  obtain ⟨_, valueForm⟩ := exists_form value.toList
  have some_key := keyForm.ne_nil
  have some_value := valueForm.ne_nil
  have line (front : List Char) {text : List Char} (some_text : text ≠ []) (c : Char) :
      endLine (margin 2 ++ (front ++ c :: ' ' :: text)) =
        margin 2 ++ (front ++ c :: ' ' :: endLine text) := by
    have front_eq : margin 2 ++ (front ++ c :: ' ' :: text) =
      margin 2 ++ front ++ [c, ' '] ++ text := by simp
    rw [front_eq, endLine_append _ some_text]
    simp
  unfold entry entryBody
  dsimp only
  split
  · rw [List.append_assoc]
    exact line _ some_value ':'
  · have keyLine := line [] some_key '?'
    have valueLine := line [] some_value ':'
    rw [List.nil_append] at keyLine valueLine
    rw [keyLine, valueLine]
    simp

theorem atWord_form (form : Form text style written) (behind : List Char) :
    atWord (written ++ behind) = true := by
  cases form with
  | plain allowed => exact atWord_plain (Plain.isText_of_plainAllowed allowed) behind
  | single flat allowed => rfl
  | double => rfl
  | literal lines allowed => rfl

/-- The place behind a scalar at the end of a line and the margin behind it. -/
theorem column_after_line (position : Position) (text : List Char) (n : Nat) :
    (position.after (endLine text ++ margin n)).column = n := by
  obtain ⟨front, b, line, breaks⟩ := exists_endLine text
  rw [line, List.append_assoc]
  exact (position.after_line front breaks n).2

/-- A value behind its colon, at the end of a line of a mapping below the root. -/
theorem reaches_value (tokens : List Token) (keyAllowed : Bool)
    (form : Form text style written) {n : Nat} {next : List Char}
    (continues : Continues 2 (margin n ++ next) next) (word : atWord next = true)
    (outer : List Nat) (deep : 2 ≤ position.column) :
    ∃ after : Position, after.column = n ∧
      Reaches ⟨' ' :: (endLine written ++ (margin n ++ next)), position, tokens, 2 :: outer,
          keyAllowed, none, []⟩
        ⟨next, after, .scalar style (String.ofList text) :: tokens, 2 :: outer, true, none, []⟩ := by
  have starts : atWord (endLine written ++ (margin n ++ next)) = true := by
    unfold endLine
    split
    · exact atWord_form form _
    · rw [List.append_assoc]
      exact atWord_form form _
  have deep' : 2 < (position.next ' ').column := Nat.lt_succ_of_le deep
  exact ⟨_, column_after_line _ written n,
    (reaches_space starts).trans (reaches_line form continues word outer deep')⟩

theorem of_isSimpleKey {key : String} (simple : isSimpleKey key = true) :
    (∀ c ∈ key.toList, isBreak c = false) ∧ String.utf8Len key.toList ≤ simpleKeyLength := by
  simp only [isSimpleKey, Bool.and_eq_true, Bool.not_eq_true', List.any_eq_false, isRawBreak,
    Bool.or_eq_true, not_or, decide_eq_true_eq] at simple
  refine ⟨fun c mem => by simpa using (simple.1 c mem).1.1, ?_⟩
  rw [← String.utf8ByteSize_ofList, String.ofList_toList]
  exact simple.2

/-- The mark of a key that is not on one line with its colon. -/
theorem reaches_mark (tokens : List Token) (within : indents.head?.all (· ≤ position.column) = true)
    (apart : startsSpacing behind = true) :
    Reaches ⟨'?' :: behind, position, tokens, indents, true, none, []⟩
      ⟨behind, position.next '?', .key :: (opening position.column indents ++ tokens),
        columns position.column indents, true, none, []⟩ :=
  reaches_of_token (settle_word rfl rfl rfl within) rfl
    ((token_explicitKey apart none).trans explicitKey_eq) (Nat.lt_succ_self _)

/-- The colon behind such a key. -/
theorem reaches_colon (tokens : List Token) (outer : List Nat) (start : position.column = 2)
    (apart : startsSpacing behind = true) :
    Reaches ⟨':' :: behind, position, tokens, 2 :: outer, true, none, []⟩
      ⟨behind, position.next ':', .value :: tokens, 2 :: outer, true, none, []⟩ := by
  have within : (2 :: outer).head?.all (· ≤ position.column) = true := by simp [start]
  have read : (⟨':' :: behind, position, tokens, 2 :: outer, true, none, []⟩ : Lexer).token ':'
      behind = _ := (token_value apart none).trans value_apart
  have same : opening 2 (2 :: outer) = [] ∧ columns 2 (2 :: outer) = 2 :: outer := ⟨rfl, rfl⟩
  rw [start, same.1, same.2] at read
  exact reaches_of_token (settle_word rfl rfl rfl within) rfl read (Nat.lt_succ_self _)

/-- A text, without its margin, that stands for an entry of a mapping below the root. -/
inductive EntryForm (key value : String) : List Char → Prop where
  | beside {keyStyle valueStyle : ScalarStyle} {key' value' : List Char}
    (keyForm : Form key.toList keyStyle key') (valueForm : Form value.toList valueStyle value')
    (unbroken : ∀ c ∈ key.toList, isBreak c = false)
    (near : String.utf8Len key' ≤ PossibleKey.maxLength) :
    EntryForm key value (key' ++ ':' :: ' ' :: endLine value')
  | below {keyStyle valueStyle : ScalarStyle} {key' value' : List Char}
    (keyForm : Form key.toList keyStyle key') (valueForm : Form value.toList valueStyle value') :
    EntryForm key value
      ('?' :: ' ' :: (endLine key' ++ (margin 2 ++ ':' :: ' ' :: endLine value')))

theorem entryForm_entryBody (key value : String) : EntryForm key value (entryBody key value) := by
  obtain ⟨_, keyForm⟩ := exists_form key.toList
  obtain ⟨_, valueForm⟩ := exists_form value.toList
  unfold entryBody
  dsimp only
  split
  next simple =>
    obtain ⟨unbroken, short⟩ := of_isSimpleKey simple
    obtain ⟨-, -, long⟩ := keyForm.of_unbroken unbroken
    refine .beside keyForm valueForm unbroken ?_
    simp only [simpleKeyLength, PossibleKey.maxLength] at short ⊢
    omega
  next => exact .below keyForm valueForm

/-- An entry starts with a word. -/
theorem EntryForm.starts {key value : String} {body : List Char} (form : EntryForm key value body) :
    ∃ c rest, body = c :: rest ∧ startsWord c = true := by
  cases form with
  | @beside _ _ key' _ keyForm =>
    have word := atWord_form keyForm []
    obtain ⟨c, rest, rfl⟩ := List.exists_cons_of_ne_nil keyForm.ne_nil
    rw [List.append_nil] at word
    exact ⟨c, _, rfl, word⟩
  | below => exact ⟨'?', _, rfl, rfl⟩

/-- An entry of a mapping below the root. -/
theorem EntryForm.reaches {key value : String} {body : List Char} (form : EntryForm key value body)
    (tokens : List Token) {n : Nat} {next : List Char}
    (continues : Continues 2 (margin n ++ next) next) (word : atWord next = true)
    (start : position.column = 2) (within : indents.head?.all (· ≤ 2) = true)
    (outer : List Nat) (inner : columns 2 indents = 2 :: outer) :
    ∃ keyStyle valueStyle, ∃ after : Position, after.column = n ∧
      Reaches ⟨body ++ (margin n ++ next), position, tokens, indents, true, none, []⟩
        ⟨next, after, .scalar valueStyle value :: .value :: .scalar keyStyle key :: .key ::
          (opening 2 indents ++ tokens), 2 :: outer, true, none, []⟩ := by
  have within' : indents.head?.all (· ≤ position.column) = true := by rwa [start]
  cases form with
  | @beside keyStyle valueStyle key' value' keyForm valueForm unbroken near =>
    refine ⟨keyStyle, valueStyle, ?_⟩
    obtain ⟨-, unbroken', -⟩ := keyForm.of_unbroken unbroken
    have unmarked : Unmarked position key' := fun margin => by omega
    have apart : startsSpacing (' ' :: (endLine value' ++ (margin n ++ next))) = true := rfl
    have deep : 2 ≤ ((position.after key').next ':').column := by
      rw [position.after_unbroken unbroken', ← start]
      exact Nat.le_succ_of_le (Nat.le_add_right _ _)
    have named := reaches_key tokens keyForm unbroken near unmarked within' apart
    rw [start, inner, String.ofList_toList] at named
    obtain ⟨after, column, valued⟩ := reaches_value (.value :: .scalar keyStyle key :: .key ::
      (opening 2 indents ++ tokens)) false valueForm continues word outer deep
    rw [String.ofList_toList] at valued
    have split : key' ++ ':' :: ' ' :: endLine value' ++ (margin n ++ next) =
        key' ++ ':' :: ' ' :: (endLine value' ++ (margin n ++ next)) := by simp
    rw [split]
    exact ⟨after, column, named.trans valued⟩
  | @below keyStyle valueStyle key' value' keyForm valueForm =>
    refine ⟨keyStyle, valueStyle, ?_⟩
    have starts : startsWord ':' = true := rfl
    have apart : startsSpacing (' ' :: (endLine key' ++ (margin 2 ++
      ':' :: ' ' :: (endLine value' ++ (margin n ++ next))))) = true := rfl
    have marked := reaches_mark tokens within' apart
    rw [start, inner] at marked
    have deep : 2 ≤ (position.next '?').column := Nat.le_succ_of_le (Nat.le_of_eq start.symm)
    obtain ⟨middle, column, named⟩ := reaches_value (.key :: (opening 2 indents ++ tokens)) true
      keyForm (.word starts) starts outer deep
    have deep' : 2 ≤ (middle.next ':').column := Nat.le_succ_of_le (Nat.le_of_eq column.symm)
    obtain ⟨after, column', valued⟩ := reaches_value (.value :: .scalar keyStyle key :: .key ::
      (opening 2 indents ++ tokens)) true valueForm continues word outer deep'
    rw [String.ofList_toList] at named valued
    have split : '?' :: ' ' :: (endLine key' ++ (margin 2 ++ ':' :: ' ' :: endLine value')) ++
        (margin n ++ next) = '?' :: ' ' :: (endLine key' ++ (margin 2 ++
          ':' :: ' ' :: (endLine value' ++ (margin n ++ next)))) := by simp
    rw [split]
    exact ⟨after, column', marked.trans (named.trans ((reaches_colon _ outer column rfl).trans
      valued))⟩

/-- Every character of an entry can be shown. -/
theorem EntryForm.isPrintable {key value : String} {body : List Char}
    (form : EntryForm key value body) : ∀ c ∈ body, isPrintable c = true := by
  have marked {mark : Char} (shown : Yaml.isPrintable mark = true) {text : List Char}
      (rest : ∀ c ∈ text, Yaml.isPrintable c = true) :
      ∀ c ∈ mark :: ' ' :: text, Yaml.isPrintable c = true :=
    List.forall_mem_cons.2 ⟨shown, List.forall_mem_cons.2 ⟨rfl, rest⟩⟩
  cases form with
  | beside keyForm valueForm =>
    have value' := isPrintable_of_mem_endLine fun c => isPrintable_of_mem_form valueForm (c := c)
    exact List.forall_mem_append.2
      ⟨fun c => isPrintable_of_mem_form keyForm, marked rfl value'⟩
  | below keyForm valueForm =>
    have key' := isPrintable_of_mem_endLine fun c => isPrintable_of_mem_form keyForm (c := c)
    have value' := isPrintable_of_mem_endLine fun c => isPrintable_of_mem_form valueForm (c := c)
    exact marked rfl (List.forall_mem_append.2 ⟨key', List.forall_mem_append.2
      ⟨fun c => isPrintable_of_mem_margin, marked rfl value'⟩⟩)

/-- Texts that stand for entries, each for its own. -/
def EntryForms (entries : List (String × String)) (bodies : List (List Char)) : Prop :=
  List.Forall₂ (fun e body => EntryForm e.1 e.2 body) entries bodies

theorem EntryForms.isPrintable {entries : List (String × String)} {bodies : List (List Char)}
    (forms : EntryForms entries bodies) :
    ∀ c ∈ bodies.flatMap (margin 2 ++ ·), isPrintable c = true := by
  induction forms with
  | nil => exact List.forall_mem_nil _
  | cons form forms ih =>
    rw [List.flatMap_cons]
    exact List.forall_mem_append.2 ⟨List.forall_mem_append.2
      ⟨fun c => isPrintable_of_mem_margin, form.isPrintable⟩, ih⟩

/-- All entries of a mapping below the root, behind the margin of the first. -/
theorem reaches_entries {first : String × String} {body : List Char}
    (form : EntryForm first.1 first.2 body) {entries : List (String × String)}
    {bodies : List (List Char)} (forms : EntryForms entries bodies) (tokens : List Token)
    (start : position.column = 2) (within : indents.head?.all (· ≤ 2) = true) (outer : List Nat)
    (inner : columns 2 indents = 2 :: outer) :
    ∃ entryTokens, ∃ after : Position, IsEntries (first :: entries) entryTokens ∧
      Reaches ⟨body ++ bodies.flatMap (margin 2 ++ ·), position, tokens, indents, true, none, []⟩
        ⟨[], after, entryTokens.reverse ++ (opening 2 indents ++ tokens), 2 :: outer, true, none,
          []⟩ := by
  induction forms generalizing first body position tokens indents with
  | nil =>
    obtain ⟨keyStyle, valueStyle, after, -, read⟩ := form.reaches tokens (n := 0) .nothing rfl start
      within outer inner
    exact ⟨_, after, .cons keyStyle valueStyle .nil, read⟩
  | @cons second body' entries bodies form' forms ih =>
    have text : (body' :: bodies).flatMap (margin 2 ++ ·) =
        margin 2 ++ (body' ++ bodies.flatMap (margin 2 ++ ·)) := by
      rw [List.flatMap_cons, List.append_assoc]
    -- the first entry is read up to the second, whose margin ends the last scalar of the first
    obtain ⟨c, rest, second_eq, word⟩ := form'.starts
    have continues : Continues 2 (margin 2 ++ (body' ++ bodies.flatMap (margin 2 ++ ·)))
        (body' ++ bodies.flatMap (margin 2 ++ ·)) := by
      rw [second_eq]
      exact .word word
    obtain ⟨keyStyle, valueStyle, middle, column, read⟩ := form.reaches tokens continues
      (by rw [second_eq]; exact word) start within outer inner
    have open_already : opening 2 (2 :: outer) = [] ∧ columns 2 (2 :: outer) = 2 :: outer :=
      ⟨rfl, rfl⟩
    obtain ⟨later, after, are, goes⟩ := ih form' (.scalar valueStyle first.2 :: .value ::
      .scalar keyStyle first.1 :: .key :: (opening 2 indents ++ tokens)) column rfl open_already.2
    rw [open_already.1, List.nil_append] at goes
    refine ⟨_, after, .cons keyStyle valueStyle are, ?_⟩
    rw [text]
    simpa using read.trans goes

/-- Entries one after the other, each with its margin. -/
def entriesText (entries : List (String × String)) : List Char :=
  entries.flatMap fun e => entry e.1 e.2

/-- What entries are written as stands for them. -/
theorem entryForms_written (entries : List (String × String)) :
    EntryForms entries (entries.map fun e => entryBody e.1 e.2) :=
  List.forall₂_map_right_iff.2 (List.forall₂_same.2 fun e _ => entryForm_entryBody e.1 e.2)

theorem entriesText_eq (entries : List (String × String)) :
    entriesText entries = (entries.map fun e => entryBody e.1 e.2).flatMap (margin 2 ++ ·) := by
  rw [List.flatMap_map, entriesText]
  simp only [entry_eq]

/-- A mapping without entries, in braces behind a colon. -/
theorem reaches_braces (tokens : List Token)
    (within : indents.head?.all (· ≤ position.column) = true) :
    Reaches ⟨'{' :: '}' :: behind, position, tokens, indents, false, none, []⟩
      ⟨behind, (position.next '{').next '}', .flowMappingEnd :: .flowMappingStart :: tokens,
        indents, false, none, []⟩ := by
  have within' : indents.head?.all (· ≤ (position.next '{').column) = true :=
    within_mono within (Nat.le_succ _)
  have opened : (⟨'{' :: '}' :: behind, position, tokens, indents, false, none, []⟩ : Lexer).token
      '{' ('}' :: behind) = .ok ⟨'}' :: behind, position.next '{', .flowMappingStart :: tokens,
        indents, true, none, [none]⟩ := by
    have marks (mark : Char) (ne : '{' ≠ mark) : startsMark mark ('{' :: '}' :: behind) = false :=
      startsMark_eq_false ne _
    simp [token, marks, openFlow, saveKey, emit, skip_one, bind, Except.bind, pure, Except.pure]
  have closed : (⟨'}' :: behind, position.next '{', .flowMappingStart :: tokens, indents, true,
      none, [none]⟩ : Lexer).token '}' behind = .ok ⟨behind, (position.next '{').next '}',
        .flowMappingEnd :: .flowMappingStart :: tokens, indents, false, none, []⟩ := by
    have marks (mark : Char) (ne : '}' ≠ mark) : startsMark mark ('}' :: behind) = false :=
      startsMark_eq_false ne _
    simp [token, marks, closeFlow, dropKey, emit, skip, moveTo, Position.after, bind, Except.bind,
      pure, Except.pure]
  exact (reaches_of_token (settle_word rfl rfl rfl within) rfl opened (by simp)).trans
    (reaches_of_token (settle_word rfl rfl rfl within') rfl closed (by simp))

end Lexer
end InteractiveMobs.Yaml
