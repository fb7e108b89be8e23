import InteractiveMobs.CommandLine.Check
import InteractiveMobs.Proofs.Formatting.Translation

/-!
# Suspicious directives

A directive of codes alone is a sequence of pairs, each of a marker or a section sign and a code
character (`IsCodes`). What a check of a catalog takes for one is a directive of which nothing is
displayed (`IsHidden`): there a section sign hides whatever character stands behind it, and is
hidden itself at the end. Main statement: a directive is listed as suspicious just if it is not
hidden, and a hidden one is codes alone just if each section sign that begins a pair has a code
behind it (`suspicious_iff_not_isHidden`). So an unknown code is listed behind a marker and is not
behind a section sign (`not_suspicious_iff_not_isCodes`).
-/

namespace InteractiveMobs
set_option autoImplicit false

namespace Formatting

/-- Codes one after the other, each a pair of a marker or a section sign and a code character. -/
inductive IsCodes : List Char → Prop
  | nil : IsCodes []
  | code {mark code : Char} {rest : List Char} (marked : mark = marker ∨ mark = displayMarker)
      (known : code ∈ codeTable.toList) (others : IsCodes rest) : IsCodes (mark :: code :: rest)

/-- Text of which nothing is displayed: codes behind a marker, and section signs, each with the
character behind it, if there is one. -/
inductive IsHidden : List Char → Prop
  | nil : IsHidden []
  | atEnd : IsHidden [displayMarker]
  | code {code : Char} {rest : List Char} (known : code ∈ codeTable.toList)
      (others : IsHidden rest) : IsHidden (marker :: code :: rest)
  | sign (c : Char) {rest : List Char} (others : IsHidden rest) :
      IsHidden (displayMarker :: c :: rest)

/-- Each section sign that begins a pair has a code character behind it. -/
def SignsBeginCodes (text : List Char) : Prop :=
  ∀ pair, text[2 * pair]? = some displayMarker →
    text[2 * pair + 1]?.any (codeTable.toList.contains ·)

theorem isTranslatable_iff {code : Char} : isTranslatable code ↔ code ∈ codeTable.toList := by
  rw [isTranslatable_eq_contains, List.contains_iff_mem]

/-! ## Pairs -/

section Pairs

variable {c d : Char} {rest : List Char}

theorem isCodes_cons_cons :
    IsCodes (c :: d :: rest) ↔
      (c = marker ∨ c = displayMarker) ∧ d ∈ codeTable.toList ∧ IsCodes rest := by
  constructor
  · intro h
    cases h with
    | code marked known others => exact ⟨marked, known, others⟩
  · rintro ⟨marked, known, others⟩
    exact .code marked known others

theorem isHidden_cons_cons :
    IsHidden (c :: d :: rest) ↔
      (c = displayMarker ∨ c = marker ∧ d ∈ codeTable.toList) ∧ IsHidden rest := by
  constructor
  · intro h
    cases h with
    | code known others => exact ⟨.inr ⟨rfl, known⟩, others⟩
    | sign d others => exact ⟨.inl rfl, others⟩
  · rintro ⟨rfl | ⟨rfl, known⟩, others⟩
    · exact .sign d others
    · exact .code known others

theorem isHidden_singleton : IsHidden [c] ↔ c = displayMarker := by
  constructor
  · intro h
    cases h
    rfl
  · rintro rfl
    exact .atEnd

/-- Hidden text begins with a marker or a section sign. -/
theorem IsHidden.head (h : IsHidden (c :: rest)) : c = displayMarker ∨ c = marker := by
  cases h with
  | atEnd => exact .inl rfl
  | code known others => exact .inr rfl
  | sign d others => exact .inl rfl

theorem signsBeginCodes_cons_cons :
    SignsBeginCodes (c :: d :: rest) ↔
      (c = displayMarker → d ∈ codeTable.toList) ∧ SignsBeginCodes rest := by
  have later (pair : Nat) : 2 * (pair + 1) = 2 * pair + 1 + 1 := by omega
  constructor
  · intro h
    refine ⟨fun sign => ?_, fun pair => ?_⟩
    · simpa using h 0 (by simp [sign])
    · simpa [later] using h (pair + 1)
  · rintro ⟨first, others⟩ pair
    cases pair with
    | zero => simpa using first
    | succ pair => simpa [later] using others pair

end Pairs

/-- Hidden text is codes alone just if no section sign hides anything else. -/
theorem isCodes_iff {text : List Char} : IsCodes text ↔ IsHidden text ∧ SignsBeginCodes text := by
  induction text using List.twoStepInduction with
  | nil => exact ⟨fun _ => ⟨.nil, fun pair sign => by simp at sign⟩, fun _ => .nil⟩
  | singleton c =>
    constructor
    · intro h
      cases h
    · rintro ⟨hidden, signs⟩
      have sign := isHidden_singleton.1 hidden
      simpa using signs 0 (by simp [sign])
  | cons_cons c d rest ih _ =>
    rw [isCodes_cons_cons, isHidden_cons_cons, signsBeginCodes_cons_cons, ih]
    constructor
    · rintro ⟨rfl | rfl, known, hidden, signs⟩
      · exact ⟨⟨.inr ⟨rfl, known⟩, hidden⟩, fun _ => known, signs⟩
      · exact ⟨⟨.inl rfl, hidden⟩, fun _ => known, signs⟩
    · rintro ⟨⟨rfl | ⟨rfl, known⟩, hidden⟩, first, signs⟩
      · exact ⟨.inr rfl, first rfl, hidden, signs⟩
      · exact ⟨.inl rfl, known, hidden, signs⟩

/-! ## What is hidden -/

theorem codeAt_displayMarker (rest : List Char) : codeAt (displayMarker :: rest) 0 = false := by
  have unmarked : displayMarker ≠ marker := by decide
  simp [codeAt, unmarked]

theorem codeAt_eq_true_iff {text : List Char} :
    codeAt text 0 = true ↔ ∃ code rest, text = marker :: code :: rest ∧ isTranslatable code := by
  constructor
  · intro begins
    rcases text with _ | ⟨c, _ | ⟨code, rest⟩⟩
    · simp [codeAt] at begins
    · simp [codeAt] at begins
    · obtain ⟨rfl, known⟩ : c = marker ∧ isTranslatable code := by simpa [codeAt] using begins
      exact ⟨code, rest, rfl, known⟩
  · rintro ⟨code, rest, rfl, known⟩
    simp [codeAt, known]

/-- A section sign hides the character behind it, if that begins no code. -/
theorem visibleChars_sign {c : Char} {rest : List Char} (h : codeAt (c :: rest) 0 = false) :
    visibleChars (displayMarker :: c :: rest) = visibleChars rest := by
  rw [visibleChars, translateChars_other (codeAt_displayMarker _), translateChars_other h,
    stripChars, if_pos rfl, visibleChars]

/-- If it does begin a code, the character of the code shows up. -/
theorem visibleChars_sign_code {code : Char} (h : isTranslatable code) (rest : List Char) :
    visibleChars (displayMarker :: marker :: code :: rest) = code.toLower :: visibleChars rest := by
  have unmarked : code.toLower ≠ displayMarker :=
    ne_of_isTranslatable (by simpa using h) isTranslatable_displayMarker
  rw [visibleChars, translateChars_other (codeAt_displayMarker _), translateChars_code h,
    stripChars, if_pos rfl, stripChars_other unmarked, visibleChars]

/-- Hidden text does not go on with a code character where a pair would begin. -/
theorem not_isHidden_of_isTranslatable {code : Char} (h : isTranslatable code) (rest : List Char) :
    ¬ IsHidden (code :: rest) := by
  intro hidden
  rcases hidden.head with sign | marked
  · exact ne_of_isTranslatable h isTranslatable_displayMarker sign
  · exact ne_of_isTranslatable h isTranslatable_marker marked

/-- Nothing is displayed of a text just if it is hidden. The induction takes two characters at once,
as stripping does. -/
theorem visibleChars_eq_nil_iff {text : List Char} : visibleChars text = [] ↔ IsHidden text := by
  induction text using List.twoStepInduction with
  | nil => exact iff_of_true rfl .nil
  | singleton c =>
    rw [isHidden_singleton]
    by_cases sign : c = displayMarker <;> simp [visibleChars, translateChars, stripChars, sign]
  | cons_cons c d rest ih _ =>
    rw [isHidden_cons_cons]
    by_cases sign : c = displayMarker
    · subst sign
      cases begins : codeAt (d :: rest) 0 with
      | false => simp [visibleChars_sign begins, ih]
      | true =>
        obtain ⟨code, more, same, known⟩ := codeAt_eq_true_iff.1 begins
        obtain ⟨rfl, rfl⟩ := List.cons.inj same
        refine iff_of_false ?_ fun hidden => not_isHidden_of_isTranslatable known more hidden.2
        rw [visibleChars_sign_code known]
        exact List.cons_ne_nil _ _
    · cases begins : codeAt (c :: d :: rest) 0 with
      | true =>
        obtain ⟨code, more, same, known⟩ := codeAt_eq_true_iff.1 begins
        cases same
        simp [visibleChars_code known, ih, isTranslatable_iff.1 known]
      | false =>
        rw [visibleChars_other begins sign]
        refine iff_of_false (List.cons_ne_nil _ _) ?_
        rintro ⟨marked | ⟨rfl, known⟩, -⟩
        · exact sign marked
        · rw [codeAt_eq_true_iff.2 ⟨d, rest, rfl, isTranslatable_iff.2 known⟩] at begins
          cases begins

theorem isCodeOnly_iff {text : String} : isCodeOnly text = true ↔ IsHidden text.toList := by
  rw [← visibleChars_eq_nil_iff, ← toList_visible, String.toList_eq_nil_iff]
  exact String.isEmpty_iff

end Formatting

namespace CommandLine
open Formatting

theorem mem_directives_iff {report : MessageReport} {directive : String} :
    directive ∈ report.directives ↔ some directive ∈ report.template.directives := by
  simp [MessageReport.directives]

theorem mem_suspicious_iff {report : MessageReport} {directive : String} :
    directive ∈ report.suspicious ↔
      some directive ∈ report.template.directives ∧ ¬ IsHidden directive.toList := by
  rw [MessageReport.suspicious, List.mem_filter, mem_directives_iff, ← isCodeOnly_iff]
  simp

/-- **What a check lists.** A catalog is reported message by message, and of the directives of a
message those are listed as suspicious of which something is displayed. A directive is codes alone
just if nothing of it is displayed and each section sign that begins a pair has a code behind it; so
without section signs what is listed are the directives that are not codes alone. -/
theorem suspicious_iff_not_isHidden (config : Config) :
    (reports (.ofConfig config) =
      config.messages.entries.map fun e => { key := e.1, template := .compile e.2 }) ∧
      (∀ report ∈ reports (.ofConfig config), ∀ directive,
        directive ∈ report.suspicious ↔
          some directive ∈ report.template.directives ∧ ¬ IsHidden directive.toList) ∧
      ∀ directive : String,
        (isCodeOnly directive = true ↔ IsHidden directive.toList) ∧
          (IsCodes directive.toList ↔
            IsHidden directive.toList ∧ SignsBeginCodes directive.toList) := by
  refine ⟨?_, fun report _ directive => mem_suspicious_iff, fun directive =>
    ⟨isCodeOnly_iff, isCodes_iff⟩⟩
  rw [reports, MessageSet.ofConfig, Table.mapValues, List.map_map]
  rfl

/-- An unknown code behind a marker is listed; behind a section sign it is not, nor is a section
sign at the end. -/
theorem suspicious_unknown_codes :
    let raw := "\x7b&z\x7d \x7b\u00A7z\x7d \x7b\u00A7C&x\u00A7\x7d"
    let report : MessageReport := { key := ⟨"greet"⟩, template := .compile raw }
    report ∈ reports (.ofConfig (.ofEntries [("greet", raw)])) ∧ "&z" ∈ report.suspicious ∧
      "\u00A7z" ∉ report.suspicious ∧ "\u00A7C&x\u00A7" ∉ report.suspicious := by
  intro raw report
  have member : report ∈ reports (.ofConfig (.ofEntries [("greet", raw)])) := by decide
  have listed := (suspicious_iff_not_isHidden (.ofEntries [("greet", raw)])).2.1 report member
  have shown : ¬ IsHidden "&z".toList := by
    intro hidden
    rcases (isHidden_cons_cons.1 hidden).1 with sign | ⟨-, known⟩
    · exact absurd sign (by decide)
    · exact absurd known (by decide)
  refine ⟨member, (listed _).2 ⟨by decide, shown⟩, fun mem => ((listed _).1 mem).2 ?_,
    fun mem => ((listed _).1 mem).2 ?_⟩
  · exact .sign 'z' .nil
  · exact .sign 'C' (.code (by decide) .atEnd)

/-- It is not the directives that are not codes alone which are listed: an unknown code behind a
section sign is none of the listed ones. -/
theorem not_suspicious_iff_not_isCodes :
    ¬ ∀ config, ∀ report ∈ reports (.ofConfig config), ∀ directive ∈ report.directives,
      (directive ∈ report.suspicious ↔ ¬ IsCodes directive.toList) := by
  intro listed
  have unknown : ¬ IsCodes "\u00A7z".toList := fun codes =>
    absurd (isCodes_cons_cons.1 codes).2.1 (by decide)
  have mem := (listed (.ofEntries [("greet", "\x7b\u00A7z\x7d")])
    { key := ⟨"greet"⟩, template := .compile "\x7b\u00A7z\x7d" } (by decide) "\u00A7z"
    (by decide)).2 unknown
  exact absurd mem (by decide)

end CommandLine
end InteractiveMobs
