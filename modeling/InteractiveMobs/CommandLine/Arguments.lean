import InteractiveMobs.CommandLine.Usage
import InteractiveMobs.CommandLine.Word

/-!
# Arguments

Reading the words behind a command. Flags and options may stand between the plain words. The
value of an option is looked at only when the next word that the command knows comes, or the end,
so a word it does not know is reported first.
-/

namespace InteractiveMobs.CommandLine
set_option autoImplicit false

/-- What a command takes. -/
structure Shape where
  /-- The names of the plain words it needs. -/
  required : List String := []
  /-- Whether more plain words may follow those. -/
  takesMore : Bool := false
  /-- The options without a value. -/
  flags : List String := []
  /-- The options that name a file. -/
  files : List String := []
deriving DecidableEq, Repr

/-- The words of a command by what they are. -/
structure Arguments where
  plain : List String := []
  flags : List String := []
  files : List (String × String) := []
deriving DecidableEq, Repr

namespace Arguments

/-- Whether a flag was given. -/
def has (arguments : Arguments) (flag : String) : Bool := arguments.flags.contains flag

/-- The file given for an option. -/
def file? (arguments : Arguments) (option : String) : Option String :=
  arguments.files.lookup option

end Arguments

/-- A flag as written in full. -/
def flagText (name : String) : String := "--" ++ name

/-- An option with a value as written in full. -/
def optionText (name : String) : String := "--" ++ name ++ " <FILE>"

/-- Arguments read so far. -/
structure Reading where
  arguments : Arguments := {}
  /-- The option read last, whose value has not been looked at. -/
  pending : Option (String × Option String) := none
deriving DecidableEq, Repr

namespace Reading

/-- Looks at the value of the option read last: it has to be there, to be the only one, and not
to be empty. -/
def settle (reading : Reading) : Except UsageError Reading :=
  match reading.pending with
  | none => .ok reading
  | some (name, none) => .error (.missingValue (optionText name))
  | some (name, some value) =>
    if (reading.arguments.file? name).isSome then .error (.repeatedOption (optionText name))
    else if value.isEmpty then .error (.missingValue (optionText name))
    else .ok {
      arguments := { reading.arguments with
        files := reading.arguments.files ++ [(name, value)] } }

/-- Takes a plain word. -/
def takePlain (shape : Shape) (reading : Reading) (word : String) : Except UsageError Reading := do
  if shape.takesMore || reading.arguments.plain.length < shape.required.length then
    let reading ← reading.settle
    return { reading with
      arguments := { reading.arguments with plain := reading.arguments.plain ++ [word] } }
  else throw (.unknownArgument word)

/-- Takes a flag. -/
def takeFlag (reading : Reading) (name : String) : Except UsageError Reading := do
  let reading ← reading.settle
  if reading.arguments.has name then throw (.repeatedOption (flagText name))
  return { reading with
    arguments := { reading.arguments with flags := reading.arguments.flags ++ [name] } }

/-- Takes an option that names a file, with the value written behind an equals sign if there is
one. -/
def takeFile (reading : Reading) (name : String) (value : Option String) :
    Except UsageError Reading := do
  let reading ← reading.settle
  let reading := { reading with pending := some (name, value) }
  if value.isSome then reading.settle else return reading

/-- Whether the option read last still wants its value. -/
def wantsValue (reading : Reading) : Bool :=
  match reading.pending with
  | some (_, none) => true
  | _ => false

/-- Gives the option read last its value. -/
def giveValue (reading : Reading) (value : String) : Reading :=
  { reading with pending := reading.pending.map fun p => (p.1, some value) }

/-- The arguments when no word is left. -/
def finish (shape : Shape) (reading : Reading) : Except UsageError Arguments := do
  let reading ← reading.settle
  let missing := shape.required.drop reading.arguments.plain.length
  if missing.isEmpty then return reading.arguments else throw (.missingArguments missing)

/-- Reads words none of which can be an option. -/
def readPlain (shape : Shape) (reading : Reading) (words : List String) :
    Except UsageError Arguments := do
  (← words.foldlM (takePlain shape) reading).finish shape

/-- Reads the words of a command; there are no arguments if one of the words asks for help. -/
def read (shape : Shape) : Reading → List String → Except UsageError (Option Arguments)
  | reading, [] => some <$> reading.finish shape
  | reading, word :: rest =>
    match Word.of word with
    | .separator => some <$> reading.readPlain shape rest
    | .long "help" none => do
      discard reading.settle
      return none
    | .long name value =>
      if shape.files.contains name then do read shape (← reading.takeFile name value) rest
      else if shape.flags.contains name || name = "help" then
        match value with
        | some value => throw (.needlessValue value (flagText name))
        | none => do read shape (← reading.takeFlag name) rest
      else throw (.unknownArgument (flagText name))
    | .short 'h' => do
      discard reading.settle
      return none
    | .short letter => throw (.unknownArgument (String.ofList ['-', letter]))
    | .plain word =>
      if reading.wantsValue then read shape (reading.giveValue word) rest
      else do read shape (← reading.takePlain shape word) rest

end Reading

/-- Reads the words behind a command. -/
def Shape.read (shape : Shape) (words : List String) : Except UsageError (Option Arguments) :=
  Reading.read shape {} words

end InteractiveMobs.CommandLine
