import InteractiveMobs.CommandLine.Command

/-!
# Help

What the program says about itself.
-/

namespace InteractiveMobs.CommandLine
set_option autoImplicit false

/-- The name of the program. -/
def programName : String := "mobportals"

/-- The version of the program. -/
def programVersion : String := "0.1.0"

/-- The program in one sentence. -/
def programPurpose : String := "Render and check mob portal message templates"

namespace CommandName

/-- Every command, in the order in which help lists them. -/
def all : List CommandName := [render, check, message, init]

/-- The name of a command. -/
def text : CommandName → String
  | render => "render"
  | check => "check"
  | message => "show"
  | init => "init"

/-- What a command does, in one sentence. -/
def purpose : CommandName → String
  | render => "Compile and render a single template with positional arguments"
  | check => "Compile every message of a catalog and list its tokens"
  | message => "Render one catalog message by key"
  | init => "Write the default catalog to ~/.mobportals/messages.yaml"

theorem of?_text (name : CommandName) : of? name.text = some name := by cases name <;> rfl

end CommandName

/-- The words a command takes, as a line of help has them. -/
def Shape.summary (shape : Shape) : String :=
  let options := if shape.flags.isEmpty && shape.files.isEmpty then "" else " [OPTIONS]"
  options ++ String.join (shape.required.map fun name => s!" <{name}>") ++
    if shape.takesMore then " [ARGS]..." else ""

/-- The help on a command. -/
def CommandName.help (name : CommandName) : String :=
  let shape := name.shape
  name.purpose ++ s!"\n\nUsage: {programName} {name.text}" ++ shape.summary ++ "\n\nOptions:\n" ++
    String.join (shape.files.map fun option => "      " ++ optionText option ++ "\n") ++
    String.join (shape.flags.map fun flag => "      " ++ flagText flag ++ "\n") ++
    "  -h, --help\n"

/-- The help on the program. -/
def programHelp : String :=
  programPurpose ++ s!"\n\nUsage: {programName} <COMMAND>\n\nCommands:\n" ++
    String.join (CommandName.all.map fun name => "  " ++ name.text ++
      String.ofList (List.replicate (8 - name.text.length) ' ') ++ name.purpose ++ "\n") ++
    "\nOptions:\n  -h, --help     Print help\n  -V, --version  Print version\n"

/-- The help on a topic. -/
def helpText : Option CommandName → String
  | some name => name.help
  | none => programHelp

end InteractiveMobs.CommandLine
