import InteractiveMobs.Proofs.Formatting.Scan
import Mathlib.Data.List.ReduceOption

/-!
# The codes in a text

Scanning is about the codes in a text and nothing else: the pairs of a marker and a character that
it tracks, in order (`trackedCodes`). It enters one after the other (`scanChars_eq_foldl`).

What is in effect at the end can be told from there without going through the text: the last code
that ends formats, a color or a reset, says which color it is, and the formats behind it are the
ones that are active (`inEffect`). That the two agree comes from the last code alone
(`inEffect_concat`).
-/

namespace InteractiveMobs.Formatting
set_option autoImplicit false

/-- The characters behind a mark that are codes to `known`, in order. -/
def codesBehind (mark : Char) (known : Char → Bool) (text : List Char) : List Char :=
  ((text.zip text.tail).filter fun pair => pair.1 == mark && known pair.2).map Prod.snd

/-- Whether scanning takes the character behind a marker for a code. -/
def isTracked (code : Char) : Bool := (CodeClass.of? code).isSome

/-- The codes in template text that scanning is about. -/
def trackedCodes (text : List Char) : List Char := codesBehind marker isTracked text

section codesBehind

variable {mark c : Char} {known : Char → Bool}

theorem codesBehind_other (h : c ≠ mark) (rest : List Char) :
    codesBehind mark known (c :: rest) = codesBehind mark known rest := by
  cases rest <;> simp [codesBehind, h]

theorem codesBehind_lone {rest : List Char} (h : ∀ code ∈ rest.head?, known code = false) :
    codesBehind mark known (mark :: rest) = codesBehind mark known rest := by
  cases rest with
  | nil => rfl
  | cons code rest => simp [codesBehind, h code rfl]

/-- A code is no mark, so the next one is looked for behind it. -/
theorem codesBehind_code {code : Char} (h : known code) (unknown : known mark = false)
    (rest : List Char) :
    codesBehind mark known (mark :: code :: rest) = code :: codesBehind mark known rest := by
  have ne : code ≠ mark := by
    rintro rfl
    rw [unknown] at h
    cases h
  rw [← codesBehind_other ne rest]
  simp [codesBehind, h]

end codesBehind

/-! ## Scanning, code by code -/

/-- The state after one more code. -/
def State.enter (state : State) (code : Char) : State :=
  match CodeClass.of? code with
  | some kind => state.apply (written code) kind
  | none => state

theorem State.scanChars_eq_foldl (state : State) (text : List Char) :
    state.scanChars text = (trackedCodes text).foldl enter state := by
  have unknown : isTracked marker = false := by decide
  fun_induction scanChars state text with
  | case1 state => rfl
  | case2 state c => rfl
  | case3 state code rest kind hkind ih =>
    have tracked : isTracked code = true := by rw [isTracked, hkind]; rfl
    have entered : state.enter code = state.apply (written code) kind := by rw [enter, hkind]
    rw [trackedCodes, codesBehind_code tracked unknown, List.foldl_cons, entered]
    exact ih
  | case4 state code rest hkind ih =>
    have untracked : ∀ other ∈ (code :: rest).head?, isTracked other = false := by
      rintro other ⟨⟩
      rw [isTracked, hkind]
      rfl
    rw [trackedCodes, codesBehind_lone untracked]
    exact ih
  | case5 state c code rest hc ih =>
    rw [trackedCodes, codesBehind_other hc]
    exact ih

/-! ## What is in effect, from the end -/

/-- Whether the code is of the class. -/
def isOf (kind : CodeClass) (code : Char) : Bool := CodeClass.of? code = some kind

/-- Whether the code ends the formats before it. -/
def endsFormats (code : Char) : Bool := isOf .color code || isOf .reset code

/-- Each code where it occurs first, up to case. -/
def firstOccurrences (codes : List Char) : List Char :=
  (codes.mapIdx fun place code =>
    if (codes.take place).any (·.toLower == code.toLower) then none else some code).reduceOption

/-- The formats behind the last code that ends formats. -/
def formatsBehind (codes : List Char) : List Char :=
  (codes.rtakeWhile fun code => !endsFormats code).filter (isOf .format)

/-- The color and the formats in effect behind some codes. The last color or reset says what the
color is, and the formats are those behind it. -/
def inEffect (codes : List Char) : State where
  color := ((codes.reverse.find? endsFormats).filter (isOf .color)).map written
  formats := (firstOccurrences (formatsBehind codes)).map written

theorem firstOccurrences_concat (codes : List Char) (code : Char) :
    firstOccurrences (codes ++ [code]) =
      firstOccurrences codes ++
        if codes.any (·.toLower == code.toLower) then [] else [code] := by
  have before : (codes.mapIdx fun place other =>
      if ((codes ++ [code]).take place).any (·.toLower == other.toLower) then none
      else some other) =
      codes.mapIdx fun place other =>
        if (codes.take place).any (·.toLower == other.toLower) then none else some other := by
    refine List.mapIdx_eq_mapIdx_iff.2 fun place bound => ?_
    rw [List.take_append_of_le_length bound.le]
  rw [firstOccurrences, List.mapIdx_concat, before, List.reduceOption_append, List.take_left]
  split <;> rfl

/-- A code occurs if it has a first occurrence. -/
theorem any_firstOccurrences (codes : List Char) (code : Char) :
    (firstOccurrences codes).any (·.toLower == code.toLower) =
      codes.any (·.toLower == code.toLower) := by
  induction codes using List.reverseRecOn with
  | nil => rfl
  | append_singleton codes last ih =>
    rw [firstOccurrences_concat, List.any_append, List.any_append, ih]
    split
    next again =>
      obtain ⟨earlier, mem, same⟩ := List.any_eq_true.1 again
      rw [beq_iff_eq] at same
      -- what is the same as the last code is the same as that earlier one
      cases found : last.toLower == code.toLower with
      | false => simp [found]
      | true =>
        rw [beq_iff_eq] at found
        have any : codes.any (·.toLower == code.toLower) = true :=
          List.any_eq_true.2 ⟨earlier, mem, beq_iff_eq.2 (same.trans found)⟩
        rw [any, Bool.true_or, Bool.true_or]
    next => rfl

theorem sameCode_written (a b : Char) :
    sameCode (written a) (written b) = (a.toLower == b.toLower) := by
  simp [sameCode]

theorem any_written_firstOccurrences (codes : List Char) (code : Char) :
    ((firstOccurrences codes).map written).any (sameCode · (written code)) =
      codes.any (·.toLower == code.toLower) := by
  rw [List.any_map, ← any_firstOccurrences]
  exact congrArg _ (funext fun other => sameCode_written other code)

/-- Behind a color or a reset, that code alone is in effect. -/
theorem inEffect_ended (codes : List Char) {code : Char} (h : endsFormats code = true) :
    inEffect (codes ++ [code]) =
      { color := if isOf .color code then some (written code) else none, formats := [] } := by
  have none_behind : formatsBehind (codes ++ [code]) = [] := by
    rw [formatsBehind, List.rtakeWhile_concat_neg (fun code => !endsFormats code) _ _ (by simp [h])]
    rfl
  rw [inEffect, List.reverse_concat, List.find?_cons_of_pos h, none_behind]
  cases colors : isOf .color code <;> simp [Option.filter, colors, firstOccurrences]

/-- Any other code leaves the color as it is, and a format is one more. -/
theorem inEffect_passed (codes : List Char) {code : Char} (h : endsFormats code = false) :
    inEffect (codes ++ [code]) =
      { color := (inEffect codes).color
        formats := (firstOccurrences
          (formatsBehind codes ++ [code].filter (isOf .format))).map written } := by
  have one_more : formatsBehind (codes ++ [code]) =
      formatsBehind codes ++ [code].filter (isOf .format) := by
    rw [formatsBehind, List.rtakeWhile_concat_pos (fun code => !endsFormats code) _ _ (by simp [h]),
      List.filter_append]
    rfl
  rw [inEffect, List.reverse_concat, List.find?_cons_of_neg (by simp [h]), one_more]
  rfl

/-- One more code does to what is in effect what scanning does with it. -/
theorem inEffect_concat (codes : List Char) (code : Char) :
    inEffect (codes ++ [code]) = (inEffect codes).enter code := by
  unfold State.enter
  cases known : CodeClass.of? code with
  | none =>
    rw [inEffect_passed codes (by simp [endsFormats, isOf, known])]
    simp [isOf, known, inEffect]
  | some kind =>
    cases kind with
    | color =>
      rw [inEffect_ended codes (by simp [endsFormats, isOf, known])]
      simp [isOf, known, State.apply]
    | reset =>
      rw [inEffect_ended codes (by simp [endsFormats, isOf, known])]
      simp [isOf, known, State.apply]
    | format =>
      have one_more : [code].filter (isOf .format) = [code] := by simp [isOf, known]
      have active : (inEffect codes).formats.any (sameCode · (written code)) =
          (formatsBehind codes).any (·.toLower == code.toLower) :=
        any_written_firstOccurrences _ code
      rw [inEffect_passed codes (by simp [endsFormats, isOf, known]), one_more,
        firstOccurrences_concat]
      simp only [State.apply, active]
      split
      next => rw [List.append_nil]; rfl
      next => rw [List.map_append, List.map_singleton]; rfl

theorem foldl_enter_eq_inEffect (codes : List Char) :
    codes.foldl State.enter {} = inEffect codes := by
  induction codes using List.reverseRecOn with
  | nil => rfl
  | append_singleton codes last ih => rw [List.foldl_concat, ih, inEffect_concat]

namespace State

/-- **The state is what is in effect at the end of the text.** Scanning a text leads to the color
and the formats that its codes, seen from the end, leave in effect. A text may be scanned in two
parts wherever no code lies across the cut. -/
theorem scan_eq_inEffect :
    (∀ text : String, scan {} text = inEffect (trackedCodes text.toList)) ∧
      ∀ (state : State) (a b : String),
        ¬ (a.toList.getLast? = some marker ∧ b.toList.head?.any isTracked) →
          (state.scan a).scan b = state.scan (a ++ b) := by
  refine ⟨fun text => ?_, fun state a b apart => ?_⟩
  · rw [scan, scanChars_eq_foldl, foldl_enter_eq_inEffect]
  · rw [scan, scan, scan, String.toList_append, scanChars_append]
    intro marked code first
    by_contra tracked
    refine apart ⟨marked, ?_⟩
    rw [Option.mem_def.1 first, Option.any_some, isTracked, Option.isSome_iff_ne_none]
    exact tracked

/-- A repeated format, an unknown code and a format before the last color, in two parts. If the
second part took the marker at the end of the first, the state would be another one. -/
theorem scan_eq_inEffect_repeated :
    ¬ ("&l&C&n&N&z&".toList.getLast? = some marker ∧ "& &O&x&o".toList.head?.any isTracked) ∧
      (scan {} "&l&C&n&N&z&").scan "& &O&x&o" = { color := some "&C", formats := ["&n", "&O"] } ∧
      (scan {} "&l&C&n&N&z&").scan "R" ≠ scan {} ("&l&C&n&N&z&" ++ "R") := by
  have apart : ¬ ("&l&C&n&N&z&".toList.getLast? = some marker ∧
      "& &O&x&o".toList.head?.any isTracked) := by decide
  refine ⟨apart, ?_, by decide⟩
  rw [scan_eq_inEffect.2 {} _ _ apart, scan_eq_inEffect.1]
  decide

end State
end InteractiveMobs.Formatting
