import InteractiveMobs.Formatting.State
import InteractiveMobs.Names
import InteractiveMobs.Template

/-!
# Rendering

Arguments fill the tokens in order. An argument with a directive stands between resets, and
the formatting that the literals before it set up is written again behind it, so what a
directive does ends with its argument.
-/

namespace InteractiveMobs
set_option autoImplicit false

/-- Why a message could not be rendered. -/
inductive MessageError where
  /-- Fewer arguments than the template asks for. -/
  | argumentCount (required supplied : Nat)
  /-- No message under the key. -/
  | unknownKey (key : MessageKey)
deriving DecidableEq, Repr

/-- The text of an error. -/
def MessageError.message : MessageError → String
  | argumentCount required supplied =>
    s!"template needs {required} argument(s) but {supplied} were supplied"
  | unknownKey key => s!"no message registered under key '{key.text}'"

namespace Template
open Formatting

/-- Template text with the arguments in place, where `state` is the formatting in effect. When
the arguments run out, the text ends there. -/
def expand (state : State) : List Segment → List String → String
  | [], _ => ""
  | .literal text :: rest, args => text ++ expand (state.scan text) rest args
  | .token _ :: _, [] => ""
  | .token none :: rest, value :: args => value ++ expand state rest args
  | .token (some directive) :: rest, value :: args =>
    resetCode ++ directive ++ value ++ resetCode ++ state.restorePrefix ++ expand state rest args

/-- The message as displayed. Arguments beyond those asked for are ignored. -/
def render (template : Template) (args : List String) : Except MessageError String :=
  if args.length < template.tokenCount then
    .error (.argumentCount template.tokenCount args.length)
  else
    .ok (translate (expand {} template.segments args))

/-- Rendering fails only for want of arguments. -/
theorem render_eq_error_iff {template : Template} {args : List String} {error : MessageError} :
    template.render args = .error error ↔
      args.length < template.tokenCount ∧
        error = .argumentCount template.tokenCount args.length := by
  unfold render
  split
  next few =>
    rw [Except.error.injEq]
    exact ⟨fun same => ⟨few, same.symm⟩, fun same => same.2.symm⟩
  next enough => exact ⟨nofun, fun few => absurd few.1 enough⟩

end Template
end InteractiveMobs
