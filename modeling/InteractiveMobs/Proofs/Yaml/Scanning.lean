import InteractiveMobs.Proofs.Yaml.Printed
import InteractiveMobs.Yaml.Lexer

/-!
# Scanning what was written

`Lexer.Reaches` says that one lexer goes on as another one, which has less text before it. The
steps that reach a lexer are white space (`reaches_word`) and tokens (`reaches_token`).
-/

namespace InteractiveMobs.Yaml
set_option autoImplicit false
open Writing

/-! ## Places -/

namespace Position

theorem after_append (position : Position) (front back : List Char) :
    position.after (front ++ back) = (position.after front).after back := List.foldl_append

/-- Text without a break stays on its line. -/
theorem after_unbroken (position : Position) {passed : List Char}
    (unbroken : ∀ c ∈ passed, isBreak c = false) :
    position.after passed = ⟨position.line, position.column + passed.length,
      position.index + String.utf8Len passed⟩ := by
  induction passed generalizing position with
  | nil => rfl
  | cons c rest ih =>
    have on := ih (position.next c) fun d mem => unbroken d (List.mem_cons_of_mem c mem)
    have next : position.next c = ⟨position.line, position.column + 1,
        position.index + c.utf8Size⟩ := by
      simp [Position.next, unbroken c List.mem_cons_self]
    rw [after, List.foldl_cons, ← after, on, next, String.utf8Len_cons, List.length_cons]
    simp only [Position.mk.injEq, true_and]
    omega

theorem line_le_after (position : Position) (passed : List Char) :
    position.line ≤ (position.after passed).line := by
  induction passed generalizing position with
  | nil => exact Nat.le_refl _
  | cons c rest ih =>
    refine Nat.le_trans ?_ (ih (position.next c))
    unfold next
    split
    · exact Nat.le_succ _
    · exact Nat.le_refl _

/-- Behind a break comes a new line. -/
theorem after_line (position : Position) (front : List Char) {b : Char} (breaks : isBreak b = true)
    (n : Nat) : position.line < (position.after (front ++ b :: margin n)).line ∧
      (position.after (front ++ b :: margin n)).column = n := by
  have spaces : ∀ c ∈ margin n, isBreak c = false := fun c mem => by
    rw [List.eq_of_mem_replicate mem]
    rfl
  have next : (position.after front).next b = ⟨(position.after front).line + 1, 0,
      (position.after front).index + b.utf8Size⟩ := by
    simp [Position.next, breaks]
  have on : position.after (front ++ b :: margin n) =
      ((position.after front).next b).after (margin n) := by
    rw [after_append]
    rfl
  rw [on, after_unbroken _ spaces, next]
  refine ⟨Nat.lt_succ_of_le (line_le_after position front), ?_⟩
  simp [margin]

end Position

namespace Lexer

/-! ## Going on -/

theorem moveTo_append (lexer : Lexer) {passed rest : List Char} (h : lexer.rest = passed ++ rest) :
    lexer.moveTo rest = { lexer with rest, position := lexer.position.after passed } := by
  simp [moveTo, h]

/-- One lexer goes on as another, which has less text before it. As many steps as there are
characters stay enough. -/
def Reaches (start stop : Lexer) : Prop :=
  ∀ steps, start.rest.length < steps →
    ∃ steps', stop.rest.length < steps' ∧ start.run steps = stop.run steps'

theorem Reaches.trans {start middle stop : Lexer} (first : start.Reaches middle)
    (later : middle.Reaches stop) : start.Reaches stop := by
  intro steps enough
  obtain ⟨steps', enough', same⟩ := first steps enough
  obtain ⟨steps'', enough'', same'⟩ := later steps' enough'
  exact ⟨steps'', enough'', same.trans same'⟩

/-- A token takes the lexer on. -/
theorem reaches_of_token {start settled stop : Lexer} (pause : start.settle = .ok settled)
    {c : Char} {rest : List Char} (starts : settled.rest = c :: rest)
    (read : settled.token c rest = .ok stop) (shorter : stop.rest.length < start.rest.length) :
    start.Reaches stop := by
  intro steps enough
  obtain ⟨steps, rfl⟩ : ∃ n, steps = n + 1 := ⟨steps - 1, by omega⟩
  refine ⟨steps, by omega, ?_⟩
  rw [run, pause]
  simp only [bind, Except.bind, starts, read]

/-- White space takes the lexer on, if there is none behind it. -/
theorem reaches_of_spacing {start stop : Lexer} (pass : start.passSpacing.refreshKeys = .ok stop)
    (there : stop.passSpacing.refreshKeys = .ok stop)
    (shorter : stop.rest.length ≤ start.rest.length) : start.Reaches stop := by
  intro steps enough
  obtain ⟨steps, rfl⟩ : ∃ n, steps = n + 1 := ⟨steps - 1, by omega⟩
  refine ⟨steps + 1, by omega, ?_⟩
  rw [run, run, settle, settle, pass, there]

/-! ## White space -/

theorem skipSpacing_word {rest : List Char} (word : atWord rest = true) (flow keyAllowed : Bool)
    (part : LinePart) (inside : part ≠ .comment) :
    skipSpacing flow keyAllowed part rest = (keyAllowed, rest) := by
  cases rest with
  | nil => rfl
  | cons c rest =>
    obtain ⟨blank, unbroken, comment, mark⟩ := of_startsWord (Option.all_some.symm.trans word)
    simp only [isBlank, Bool.or_eq_false_iff, decide_eq_false_iff_not] at blank
    simp [skipSpacing, unbroken, inside, blank, comment, mark]

/-- Spaces and breaks are passed. In a block a break allows keys. -/
theorem skipSpacing_gap {gap rest : List Char} (spacing : ∀ c ∈ gap, c = ' ' ∨ isBreak c = true)
    (word : atWord rest = true) (flow keyAllowed : Bool) (part : LinePart)
    (inside : part ≠ .comment) :
    skipSpacing flow keyAllowed part (gap ++ rest) =
      (keyAllowed || (!flow && gap.any isBreak), rest) := by
  induction gap generalizing keyAllowed part with
  | nil => simp [skipSpacing_word word flow keyAllowed part inside]
  | cons c gap ih =>
    have later : ∀ c ∈ gap, c = ' ' ∨ isBreak c = true :=
      fun d mem => spacing d (List.mem_cons_of_mem c mem)
    rw [List.cons_append, skipSpacing]
    cases breaks : isBreak c with
    | true =>
      rw [if_pos rfl, ih later _ .margin (by decide)]
      cases flow <;> cases keyAllowed <;> simp [breaks]
    | false =>
      obtain rfl := (spacing c List.mem_cons_self).resolve_right (by simp [breaks])
      simp [inside, ih later, breaks]

variable {rest : List Char} {position : Position} {tokens : List Token} {indents : List Nat}
  {keyAllowed : Bool} {possibleKey : Option PossibleKey} {outerKeys : List (Option PossibleKey)}

theorem passSpacing_gap {gap : List Char} (spacing : ∀ c ∈ gap, c = ' ' ∨ isBreak c = true)
    (word : atWord rest = true) :
    (⟨gap ++ rest, position, tokens, indents, keyAllowed, possibleKey, outerKeys⟩ :
        Lexer).passSpacing =
      ⟨rest, position.after gap, tokens, indents,
        keyAllowed || (outerKeys.isEmpty && gap.any isBreak), possibleKey, outerKeys⟩ := by
  have inside : (if position.column = 0 then LinePart.margin else .inside) ≠ .comment := by
    split <;> decide
  rw [passSpacing]
  simp only [skipSpacing_gap spacing word _ _ _ inside]
  rw [moveTo_append _ rfl]
  simp [inFlow]

/-- Nothing is passed where there is no white space. -/
theorem passSpacing_word (word : atWord rest = true) :
    (⟨rest, position, tokens, indents, keyAllowed, possibleKey, outerKeys⟩ :
        Lexer).passSpacing =
      ⟨rest, position, tokens, indents, keyAllowed, possibleKey, outerKeys⟩ := by
  have none : ∀ c ∈ ([] : List Char), c = ' ' ∨ isBreak c = true := nofun
  refine (passSpacing_gap none word).trans ?_
  simp [Position.after]

theorem refreshKeys_eq {key : Option PossibleKey} (fresh : refresh position possibleKey = .ok key)
    (outer : outerKeys.mapM (refresh position) = .ok outerKeys) :
    (⟨rest, position, tokens, indents, keyAllowed, possibleKey, outerKeys⟩ :
        Lexer).refreshKeys =
      .ok ⟨rest, position, tokens, indents, keyAllowed, key, outerKeys⟩ := by
  simp only [refreshKeys, fresh, outer, bind, Except.bind, pure, Except.pure]

/-- White space takes the lexer to the next word, behind which no colon makes a key of what may
have been one before it. -/
theorem reaches_word {gap : List Char} (spacing : ∀ c ∈ gap, c = ' ' ∨ isBreak c = true)
    (word : atWord rest = true) (gone : refresh (position.after gap) possibleKey = .ok none) :
    Reaches ⟨gap ++ rest, position, tokens, indents, keyAllowed, possibleKey, []⟩
      ⟨rest, position.after gap, tokens, indents, keyAllowed || gap.any isBreak, none, []⟩ := by
  refine reaches_of_spacing ?_ ?_ (by simp)
  · rw [passSpacing_gap spacing word, refreshKeys_eq gone rfl]
    rfl
  · rw [passSpacing_word word, refreshKeys_eq rfl rfl]

theorem closeBlocks_eq (within : indents.head?.all (· ≤ position.column) = true) :
    (⟨rest, position, tokens, indents, keyAllowed, possibleKey, outerKeys⟩ :
        Lexer).closeBlocks position.column =
      ⟨rest, position, tokens, indents, keyAllowed, possibleKey, outerKeys⟩ := by
  have none : indents.takeWhile (position.column < ·) = [] := by
    cases indents with
    | nil => rfl
    | cons column outer =>
      have low : ¬ position.column < column := Nat.not_lt.2 (by simpa using within)
      simp [low]
  have all : indents.dropWhile (position.column < ·) = indents := by
    have split := List.takeWhile_append_dropWhile (p := (position.column < ·)) (l := indents)
    rwa [none] at split
  rw [closeBlocks]
  simp only [none, all]
  split <;> rfl

/-- At a word that is indented enough, the lexer is ready for the next token. -/
theorem settle_word (word : atWord rest = true)
    (fresh : refresh position possibleKey = .ok possibleKey)
    (outer : outerKeys.mapM (refresh position) = .ok outerKeys)
    (within : indents.head?.all (· ≤ position.column) = true) :
    (⟨rest, position, tokens, indents, keyAllowed, possibleKey, outerKeys⟩ : Lexer).settle =
      .ok ⟨rest, position, tokens, indents, keyAllowed, possibleKey, outerKeys⟩ := by
  rw [settle, passSpacing_word word, refreshKeys_eq fresh outer]
  exact congrArg Except.ok (closeBlocks_eq within)

/-- At the end of the text the open block collections end. -/
theorem run_end (steps : Nat) :
    run (steps + 1) ⟨[], position, tokens, indents, keyAllowed, none, []⟩ =
      .ok (List.replicate indents.length Token.blockEnd ++ tokens).reverse := by
  have word : atWord [] = true := rfl
  have all : (indents.takeWhile (position.column < ·)).length +
      (indents.dropWhile (position.column < ·)).length = indents.length := by
    rw [← List.length_append, List.takeWhile_append_dropWhile]
  rw [run, settle, passSpacing_word word, refreshKeys_eq rfl rfl]
  simp [bind, Except.bind, pure, Except.pure, closeBlocks, inFlow, endBlocks, closeAllBlocks,
    dropKey, all]

/-- A lexer that goes on to the end of the text has the tokens it has there. -/
theorem Reaches.run_eq {start : Lexer} {steps : Nat}
    (whole : start.Reaches ⟨[], position, tokens, indents, keyAllowed, none, []⟩)
    (enough : start.rest.length < steps) :
    start.run steps = .ok (List.replicate indents.length Token.blockEnd ++ tokens).reverse := by
  obtain ⟨steps', some_steps, same⟩ := whole steps enough
  obtain ⟨steps', rfl⟩ := Nat.exists_eq_add_of_le' some_steps
  exact same.trans (run_end steps')

end Lexer

theorem tokens_eq {text : String} (shown : ∀ c ∈ text.toList, isPrintable c = true) :
    tokens text =
      Lexer.run (text.toList.length + 1) ⟨text.toList, {}, [], [], true, none, []⟩ := by
  have allowed : text.toList.find? (!isAllowed ·) = none :=
    List.find?_eq_none.2 fun c mem => by simp [isAllowed_of_isPrintable (shown c mem)]
  rw [tokens, allowed]
  simp only [unifyBreaks_eq shown]

end InteractiveMobs.Yaml
