import InteractiveMobs.Template

/-!
# Compiling message text

A brace is a delimiter unless it is escaped. A run of `n` backslashes directly before a brace
writes `n / 2` backslashes, and the brace is escaped when `n` is odd; backslashes anywhere else
are ordinary. A delimiter `{` and the next one, if that is a `}`, make a token; any other
delimiter is literal text. Every text compiles.
-/

namespace InteractiveMobs
set_option autoImplicit false

/-- What is known of a message part of the way through its text. Texts are kept newest
character first, and segments newest first. -/
structure Draft where
  segments : List Segment := []
  /-- Literal text since the last token. -/
  literal : List Char := []
  /-- Text since a delimiter `{` that waits for its `}`. -/
  directive : Option (List Char) := none
  /-- Backslashes just read; what they stand for depends on the next character. -/
  backslashes : Nat := 0
deriving Repr, Inhabited

namespace Draft

/-- Writes characters, newest first, where text goes now: into the waiting directive if there
is one. -/
def write (draft : Draft) (newest : List Char) : Draft :=
  match draft.directive with
  | some text => { draft with directive := some (newest ++ text) }
  | none => { draft with literal := newest ++ draft.literal }

/-- Settles the run of backslashes as `n` characters of text. -/
def settle (draft : Draft) (n : Nat) : Draft :=
  { draft.write (List.replicate n '\\') with backslashes := 0 }

/-- Ends the literal text; an empty one leaves no segment. -/
def endLiteral (draft : Draft) : Draft :=
  match draft.literal with
  | [] => draft
  | text => { draft with
      segments := .literal (String.ofList text.reverse) :: draft.segments
      literal := [] }

/-- Gives up a waiting directive: its brace and its text are literal after all. -/
def abandon (draft : Draft) : Draft :=
  match draft.directive with
  | none => draft
  | some text => { draft with literal := text ++ '{' :: draft.literal, directive := none }

/-- A delimiter `{`: whatever waited is given up, and a new directive waits. -/
def openToken (draft : Draft) : Draft := { draft.abandon with directive := some [] }

/-- A delimiter `}`: it ends the token that waits for it, or is literal. -/
def closeToken (draft : Draft) : Draft :=
  match draft.directive with
  | none => draft.write ['}']
  | some text =>
    let carried := if text.isEmpty then none else some (String.ofList text.reverse)
    let ended := draft.endLiteral
    { ended with segments := .token carried :: ended.segments, directive := none }

/-- Reads one character. -/
def step (draft : Draft) (c : Char) : Draft :=
  if c = '\\' then { draft with backslashes := draft.backslashes + 1 }
  else if c = '{' ∨ c = '}' then
    let settled := draft.settle (draft.backslashes / 2)
    if draft.backslashes % 2 = 1 then settled.write [c]
    else if c = '{' then settled.openToken
    else settled.closeToken
  else (draft.settle draft.backslashes).write [c]

/-- Ends the text: waiting backslashes and a waiting directive are literal. -/
def finish (draft : Draft) : Template :=
  .ofSegments (draft.settle draft.backslashes).abandon.endLiteral.segments.reverse

end Draft

/-- The template a message text stands for. -/
def Template.compile (raw : String) : Template :=
  (raw.toList.foldl Draft.step {}).finish

end InteractiveMobs
