import InteractiveMobs.CommandLine.Program
import InteractiveMobs.Proofs.Catalog.Adequacy
import InteractiveMobs.Proofs.Formatting.Locality
import InteractiveMobs.Proofs.Template.Containment

/-!
# Messages shown with their codes

For a plain terminal a message may be printed with its display codes marked as in template text.
This stands for what is displayed: translating it gives the display text back. For a text that
brings no section sign, translating and showing it again lowers its code characters and leaves the
rest as it is, so the codes are where they were (`shownAgain_eq_codesLowered`).

Each command that prints a message does so by `printed`, once the message is found and rendered
(`program_prints`). Main statement: what such a command line prints with codes shown, translated, is
what it prints without (`translate_shown_codes`).
-/

namespace InteractiveMobs
set_option autoImplicit false
open Formatting

namespace Formatting

/-! ## Code characters in lower case -/

/-- Whether the character at the place is that of a code. -/
def isCodeCharacter (text : List Char) : Nat → Bool
  | 0 => false
  | place + 1 => codeAt text place

/-- The text with its code characters in lower case. -/
def codesLowered (text : List Char) : List Char :=
  text.mapIdx fun place c => if isCodeCharacter text place then c.toLower else c

theorem codesLowered_other {c : Char} {text : List Char} (h : codeAt (c :: text) 0 = false) :
    codesLowered (c :: text) = c :: codesLowered text := by
  have shift (place : Nat) :
      isCodeCharacter (c :: text) (place + 1) = isCodeCharacter text place := by
    cases place with
    | zero => exact h
    | succ place => exact codeAt_cons_succ c text place
  rw [codesLowered, List.mapIdx_cons]
  simp only [shift]
  rfl

theorem codesLowered_code {code : Char} (h : isTranslatable code) (rest : List Char) :
    codesLowered (marker :: code :: rest) = marker :: code.toLower :: codesLowered rest := by
  have here : codeAt (marker :: code :: rest) 0 = true := by simp [codeAt, h]
  have behind : codeAt (code :: rest) 0 = false := codeAt_eq_false h rest
  have second : isCodeCharacter (marker :: code :: rest) (0 + 1) = true := here
  have shift (place : Nat) :
      isCodeCharacter (marker :: code :: rest) (place + 1 + 1) = isCodeCharacter rest place := by
    rw [isCodeCharacter, codeAt_cons_succ]
    cases place with
    | zero => exact behind
    | succ place => exact codeAt_cons_succ code rest place
  rw [codesLowered, List.mapIdx_cons, List.mapIdx_cons]
  simp only [second, shift, if_true]
  rfl

/-- A text that is shown again has its code characters in lower case. -/
theorem shownAgain_eq_codesLowered {text : List Char} (h : displayMarker ∉ text) :
    shownAgain text = codesLowered text := by
  induction text, h using unmarked_induction with
  | nil => rfl
  | code code rest unmarked _ translatable ih =>
    rw [shownAgain_code translatable, codesLowered_code translatable, ih]
  | other c rest unmarked _ single plain ih =>
    rw [shownAgain_other single plain, codesLowered_other single, ih]

/-- A text that is shown again is translated as the text is. -/
theorem translateChars_shownAgain {text : List Char} (h : displayMarker ∉ text) :
    translateChars marker (shownAgain text) = translateChars marker text := by
  induction text, h using unmarked_induction with
  | nil => rfl
  | code code rest unmarked _ translatable ih =>
    have lowered : isTranslatable code.toLower := by simpa using translatable
    rw [shownAgain_code translatable, translateChars_code lowered, translateChars_code translatable,
      Char.toLower_toLower_eq_toLower, ih]
  | other c rest unmarked _ single plain ih =>
    have single' : codeAt (c :: shownAgain rest) 0 = false :=
      (codeAt_shownAgain unmarked c).trans single
    rw [shownAgain_other single plain, translateChars_other single', translateChars_other single,
      ih]

theorem untranslate_translate {text : String} (h : displayMarker ∉ text.toList) :
    untranslate (translate text) = String.ofList (codesLowered text.toList) := by
  rw [← String.toList_inj, toList_untranslate_translate, String.toList_ofList,
    shownAgain_eq_codesLowered h]

theorem translate_untranslate_translate {text : String} (h : displayMarker ∉ text.toList) :
    translate (untranslate (translate text)) = translate text := by
  rw [translate, translateWith, toList_untranslate_translate, translateChars_shownAgain h]
  rfl

/-- A line feed at the end is no part of a code. -/
theorem translate_append_newline (text : String) :
    translate (text ++ "\n") = translate text ++ "\n" := by
  have apart : text.toList.getLast? = some marker → "\n".toList.head?.any isTranslatable = false :=
    fun _ => by decide
  rw [translate, translateWith, String.toList_append, translateChars_append apart,
    String.ofList_append]
  rfl

end Formatting

/-- What is rendered of a template and arguments without section signs comes back when it is shown
with codes and translated. -/
theorem Template.translate_untranslate_render {raw : String} {args : List String} {text : String}
    (raw_unmarked : displayMarker ∉ raw.toList)
    (args_unmarked : ∀ value ∈ args, displayMarker ∉ value.toList)
    (rendered : (compile raw).render args = .ok text) : translate (untranslate text) = text := by
  have unmarked : displayMarker ∉ (expand {} (compile raw).segments args).toList := by
    refine displayMarker_not_mem_expand .fresh ?_ args_unmarked
    intro segment mem marked
    rw [compile_eq_ofSegments] at mem
    exact raw_unmarked (Reading.mem_of_mem_segments mem marked)
  rw [render] at rendered
  split at rendered
  next => cases rendered
  next =>
    rw [← Except.ok.inj rendered]
    exact translate_untranslate_translate unmarked

namespace CommandLine

/-! ## What a command prints -/

namespace Steps

variable {α β : Type}

/-- The result of steps that are taken on a tree. -/
def result (steps : Steps α) (tree : FileTree) : Except CommandError α :=
  (steps.run.run tree).result

theorem result_bind (steps : Steps α) (next : α → Steps β) (tree : FileTree) :
    (steps >>= next).result tree =
      match steps.result tree with
      | .ok value => (next value).result (steps.run.run tree).tree
      | .error error => .error error := by
  refine (congrArg Finished.result (Script.run_bind steps.run _ tree)).trans ?_
  rw [result]
  cases steps.run.run tree with
  | mk answer tree events => cases answer <;> rfl

theorem result_tell (events : List Log.Event) (tree : FileTree) :
    (tell events).result tree = .ok () := by
  induction events with
  | nil => rfl
  | cons event events ih => exact ih

/-- How each command that prints a message ends. -/
theorem result_printed (events : List Log.Event) (context : String) (showCodes : Bool)
    (text : String) (tree : FileTree) :
    result (do tell events; return printed showCodes (← rendered context (.ok text))) tree =
      .ok (printed showCodes text) := by
  rw [result_bind, result_tell]
  rfl

end Steps

variable {environment : Environment} {tree : FileTree} {words : List String} {showCodes : Bool}
  {raw : String} {args : List String} {text : String}

theorem result_program {command : Command} (read : Invocation.read words = .ok (.run command)) :
    ((program environment words).run tree).result =
      match (command.output environment).result tree with
      | .ok output => { output }
      | .error error => { ending := .failed error } := by
  unfold program
  rw [read]
  refine (congrArg Finished.result
    (Script.run_bind (command.output environment).run _ tree)).trans ?_
  rw [Steps.result]
  cases (command.output environment).run.run tree with
  | mk answer tree events => cases answer <;> rfl

/-- The words are a command line that asks for a message, with its codes shown or not: the text of
the template, which is among the words or in the catalog that they name, and the arguments. -/
inductive AsksFor (environment : Environment) (tree : FileTree) (words : List String) :
    Bool → String → List String → Prop
  | render {raw : String} {args : List String} {showCodes : Bool}
      (read : Invocation.read words = .ok (.run (.render raw args showCodes))) :
      AsksFor environment tree words showCodes raw args
  | message {key : MessageKey} {catalog : Option Path} {config : Config} {raw : String}
      {args : List String} {showCodes : Bool}
      (read : Invocation.read words = .ok (.run (.message key args catalog showCodes)))
      (loaded : (loadCatalog environment catalog).result tree = .ok config)
      (found : config.get? key = some raw) :
      AsksFor environment tree words showCodes raw args

/-- A message that is asked for and can be rendered is printed. -/
theorem program_prints (asks : AsksFor environment tree words showCodes raw args)
    (rendered : (Template.compile raw).render args = .ok text) :
    ((program environment words).run tree).result = { output := printed showCodes text } := by
  cases asks with
  | render read =>
    have output : ((Command.render raw args showCodes).output environment).result tree =
        .ok (printed showCodes text) := by
      unfold Command.output
      dsimp only
      rw [rendered]
      exact Steps.result_printed _ _ _ _ _
    rw [result_program read, output]
  | @message key catalog config raw args showCodes read loaded found =>
    have served : (MessageSet.ofConfig config).render key args = .ok text := by
      rw [MessageSet.render, MessageSet.get?_ofConfig, found]
      exact rendered
    have output : ((Command.message key args catalog showCodes).output environment).result tree =
        .ok (printed showCodes text) := by
      unfold Command.output
      dsimp only
      rw [Steps.result_bind, loaded]
      dsimp only
      rw [served]
      exact Steps.result_printed _ _ _ _ _
    rw [result_program read, output]

/-- **What is shown with codes stands for what is displayed.** A text that brings no section sign,
translated and shown with markers again, is the text with its code characters in lower case, and is
translated as the text is. So the output of a command line that asks for a message with its codes
shown, translated, is what it prints without: the message as displayed. -/
theorem translate_shown_codes :
    (∀ text : String, displayMarker ∉ text.toList →
      untranslate (translate text) = String.ofList (codesLowered text.toList) ∧
        translate (untranslate (translate text)) = translate text) ∧
      ∀ (environment : Environment) (tree : FileTree) (shown plain : List String) (raw : String)
        (args : List String) (text : String),
        AsksFor environment tree shown true raw args →
        AsksFor environment tree plain false raw args →
        displayMarker ∉ raw.toList → (∀ value ∈ args, displayMarker ∉ value.toList) →
        (Template.compile raw).render args = .ok text →
          ((program environment plain).run tree).result = { output := text ++ "\n" } ∧
            ∃ output, ((program environment shown).run tree).result = { output } ∧
              translate output = text ++ "\n" := by
  refine ⟨fun text h => ⟨untranslate_translate h, translate_untranslate_translate h⟩, ?_⟩
  intro environment tree shown plain raw args text asks_shown asks_plain raw_unmarked args_unmarked
    rendered
  have back : translate (printed true text) = text ++ "\n" := by
    rw [printed, if_pos rfl, translate_append_newline,
      Template.translate_untranslate_render raw_unmarked args_unmarked rendered]
  exact ⟨program_prints asks_plain rendered, printed true text,
    program_prints asks_shown rendered, back⟩

/-- Doubled and lone markers and codes in upper case, in the template and in its argument. -/
theorem translate_shown_codes_render :
    untranslate (translate "&C&&L &Z&") = "&c&&l &Z&" ∧
      (∃ output,
        ((program { home := none, time := "" }
          ["render", "&C\x7b&E\x7d &Z&", "Bo&&L", "--show-codes"]).run {}).result = { output } ∧
          translate output = "\u00A7c\u00A7r\u00A7eBo&\u00A7l\u00A7r\u00A7c &Z&\n") := by
  have lowered := (translate_shown_codes.1 "&C&&L &Z&" (by decide)).1
  refine ⟨lowered.trans (by decide), ?_⟩
  exact (translate_shown_codes.2 { home := none, time := "" } {}
    ["render", "&C\x7b&E\x7d &Z&", "Bo&&L", "--show-codes"] ["render", "&C\x7b&E\x7d &Z&", "Bo&&L"]
    "&C\x7b&E\x7d &Z&" ["Bo&&L"] "\u00A7c\u00A7r\u00A7eBo&\u00A7l\u00A7r\u00A7c &Z&"
    (.render (by decide)) (.render (by decide)) (by decide) (by decide) (by decide)).2

end CommandLine
end InteractiveMobs
