import InteractiveMobs.Storage.Path

/-!
# Catalog errors

Why a catalog document could not be found, read or written. The detail of an error is the text
that the file system or the reader of documents has for it.
-/

namespace InteractiveMobs
set_option autoImplicit false

/-- Why there is no catalog. -/
inductive CatalogError where
  /-- The file system refused. -/
  | io (detail : String)
  /-- The document at the path is no catalog. -/
  | parse (path : Path) (detail : String)
  /-- Nobody knows the home directory. -/
  | homeNotFound
  /-- There is nothing at the path. -/
  | catalogNotFound (path : Path)
deriving DecidableEq, Repr

namespace CatalogError

/-- The text of an error. -/
def message : CatalogError → String
  | io detail => "I/O error: " ++ detail
  | parse path detail => "failed to parse message catalog at " ++ path.text ++ ": " ++ detail
  | homeNotFound => "cannot determine home directory; set $HOME or equivalent"
  | catalogNotFound path => "message catalog not found at " ++ path.text

/-- The text of what lies behind an error, where something does. -/
def detail? : CatalogError → Option String
  | io detail => some detail
  | parse _ detail => some detail
  | homeNotFound => none
  | catalogNotFound _ => none

end CatalogError
end InteractiveMobs
