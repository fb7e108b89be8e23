/-!
# Paths

A path is its text, parts divided by slashes. The catalog of a home directory has a fixed place
in it.
-/

namespace InteractiveMobs
set_option autoImplicit false

/-- The path of a file or directory. -/
structure Path where
  text : String
deriving DecidableEq, Repr, Inhabited

namespace Path

instance : ToString Path := ⟨text⟩

/-- Whether the path starts at the root. -/
def isAbsolute (path : Path) : Bool := path.text.toList.head? = some '/'

/-- A text up to its first slash, and the pieces between that slash and the later ones. -/
def pieces : List Char → List Char × List (List Char)
  | [] => ([], [])
  | c :: rest =>
    let (first, later) := pieces rest
    if c = '/' then ([], first :: later) else (c :: first, later)

/-- The parts of a path, empty ones included. -/
def parts (path : Path) : List String :=
  let (first, later) := pieces path.text.toList
  String.ofList first :: later.map String.ofList

/-- `path` with one more part; a slash is put between unless one is there, or `path` is empty. -/
def join (path : Path) (part : String) : Path :=
  if path.text.isEmpty || path.text.toList.getLast? = some '/' then ⟨path.text ++ part⟩
  else ⟨path.text ++ "/" ++ part⟩

/-- The directory of the catalog in a home directory. -/
def catalogDirectory (home : Path) : Path := home.join ".mobportals"

/-- The catalog document in a home directory. -/
def catalogFile (home : Path) : Path := home.catalogDirectory.join "messages.yaml"

/-- The file a catalog document is written to before it takes its place. -/
def temporaryFile (home : Path) : Path := home.catalogDirectory.join "messages.yaml.tmp"

/-- A text without a slash is one piece. -/
theorem pieces_eq_self {text : List Char} (h : '/' ∉ text) : pieces text = (text, []) := by
  induction text with
  | nil => rfl
  | cons c rest ih =>
    have hc : ¬c = '/' := fun e => h (e ▸ List.mem_cons_self)
    rw [pieces, ih fun m => h (List.mem_cons_of_mem c m)]
    exact if_neg hc

/-- A slash divides the pieces before it from those behind it. -/
theorem pieces_append (front back : List Char) :
    pieces (front ++ '/' :: back) =
      ((pieces front).1, (pieces front).2 ++ (pieces back).1 :: (pieces back).2) := by
  induction front with
  | nil => rfl
  | cons c rest ih =>
    rw [List.cons_append, pieces, ih, pieces]
    by_cases hc : c = '/' <;> simp [hc]

/-- The parts of two paths with a slash between them are those of both. -/
theorem parts_slash (front back : Path) :
    parts ⟨front.text ++ "/" ++ back.text⟩ = front.parts ++ back.parts := by
  have h : (front.text ++ "/" ++ back.text).toList = front.text.toList ++ '/' :: back.text.toList :=
    by simp
  rw [parts, h, pieces_append]
  simp [parts]

/-- A path that ends in a slash, with more behind it, has the parts before the slash and those
behind it. -/
theorem parts_of_slash {path : Path} {front : List Char} (part : String)
    (h : path.text.toList = front ++ ['/']) :
    parts ⟨path.text ++ part⟩ = parts ⟨String.ofList front⟩ ++ parts ⟨part⟩ := by
  have hb : path.text ++ part = (String.ofList front) ++ "/" ++ part := by
    rw [← String.toList_inj]
    simp [h]
  rw [hb]
  exact parts_slash ⟨String.ofList front⟩ ⟨part⟩

end Path
end InteractiveMobs
