import InteractiveMobs.CommandLine.Arguments
import InteractiveMobs.Names
import InteractiveMobs.Storage.Path

/-!
# Commands

What the words of a command line ask for. `Invocation.read` gives the meaning of all words at
once, or the first fault in them.
-/

namespace InteractiveMobs.CommandLine
set_option autoImplicit false

/-- A command with its arguments. -/
inductive Command where
  /-- Renders a template given as text. -/
  | render (template : String) (args : List String) (showCodes : Bool)
  /-- Lists what the messages of a catalog take. -/
  | check (catalog : Option Path) (asJson : Bool)
  /-- Renders a message of a catalog. -/
  | message (key : MessageKey) (args : List String) (catalog : Option Path) (showCodes : Bool)
  /-- Writes the default catalog. -/
  | init
deriving DecidableEq, Repr

/-- The commands by name. -/
inductive CommandName where
  | render
  | check
  | message
  | init
deriving DecidableEq, Repr

namespace CommandName

/-- The command of a name. -/
def of? : String → Option CommandName
  | "render" => some render
  | "check" => some check
  | "show" => some message
  | "init" => some init
  | _ => none

/-- What the command takes. -/
def shape : CommandName → Shape
  | render => { required := ["TEMPLATE"], takesMore := true, flags := ["show-codes"] }
  | check => { flags := ["json"], files := ["catalog"] }
  | message =>
    { required := ["KEY"], takesMore := true, flags := ["show-codes"], files := ["catalog"] }
  | init => {}

/-- The command with its arguments. -/
def command (name : CommandName) (arguments : Arguments) : Command :=
  let first := arguments.plain.headD ""
  let rest := arguments.plain.tail
  let catalog := (arguments.file? "catalog").map Path.mk
  let showCodes := arguments.has "show-codes"
  match name with
  | render => .render first rest showCodes
  | check => .check catalog (arguments.has "json")
  | message => .message ⟨first⟩ rest catalog showCodes
  | init => .init

end CommandName

/-- What a command line asks for. -/
inductive Invocation where
  | run (command : Command)
  | version
  /-- Help on a command, or on all of them. -/
  | help (topic : Option CommandName)
deriving DecidableEq, Repr

namespace Invocation

/-- The topic of a request for help. -/
def readHelp : List String → Except UsageError Invocation
  | [] => .ok (.help none)
  | word :: rest =>
    match CommandName.of? word, rest with
    | some name, [] => .ok (.help (some name))
    | some _, extra :: _ => .error (.unknownCommand extra)
    | none, _ => if word = "help" then readHelp rest else .error (.unknownCommand word)

/-- The fault in words behind a separator, which no command can be. -/
def afterSeparator : List String → UsageError
  | [] => .noCommand
  | word :: _ =>
    if (CommandName.of? word).isSome || word = "help" then .unknownArgument word
    else .unknownCommand word

/-- What the words ask for. -/
def read : List String → Except UsageError Invocation
  | [] => .error .noCommand
  | word :: rest =>
    match Word.of word with
    | .separator => .error (afterSeparator rest)
    | .long "help" none | .short 'h' => .ok (.help none)
    | .long "version" none | .short 'V' => .ok .version
    | .long name value =>
      match value with
      | some value =>
        if name = "help" || name = "version" then .error (.needlessValue value (flagText name))
        else .error (.unknownArgument (flagText name))
      | none => .error (.unknownArgument (flagText name))
    | .short letter => .error (.unknownArgument (String.ofList ['-', letter]))
    | .plain word =>
      match CommandName.of? word with
      | some name => do
        match ← name.shape.read rest with
        | some arguments => return .run (name.command arguments)
        | none => return .help (some name)
      | none => if word = "help" then readHelp rest else .error (.unknownCommand word)

end Invocation
end InteractiveMobs.CommandLine
