/-!
# File errors

Why the file system refused an operation.
-/

namespace InteractiveMobs
set_option autoImplicit false

/-- A refusal of the file system. -/
inductive FileError where
  | notFound
  | alreadyExists
  | notDirectory
  | isDirectory
  | tooManyLinks
  /-- The contents are no UTF-8 text. -/
  | notText
  /-- A refusal for a reason of the system's own. -/
  | other (detail : String)
deriving DecidableEq, Repr, Inhabited

/-- The text of a refusal. -/
def FileError.message : FileError → String
  | notFound => "No such file or directory (os error 2)"
  | alreadyExists => "File exists (os error 17)"
  | notDirectory => "Not a directory (os error 20)"
  | isDirectory => "Is a directory (os error 21)"
  | tooManyLinks => "Too many levels of symbolic links (os error 40)"
  | notText => "stream did not contain valid UTF-8"
  | other detail => detail

end InteractiveMobs
