import InteractiveMobs.CommandLine.Clock
import InteractiveMobs.CommandLine.Coloring
import InteractiveMobs.CommandLine.Program
import InteractiveMobs.Log.Filter
import Std.Time.DateTime.Timestamp

/-!
# The command line program

Carries the program's script out on the real file system.
-/

namespace InteractiveMobs.CommandLine
set_option autoImplicit false

/-- The moment it is now. -/
def now : IO Moment := do
  let time := (← Std.Time.Timestamp.now).val
  return { seconds := time.second.val.toNat, nanoseconds := time.nano.val.toNat }

/-- The refusal that an error of the system stands for. -/
def fileError : IO.Error → FileError
  | .noFileOrDirectory _ _ _ => .notFound
  | .alreadyExists _ _ _ => .alreadyExists
  | .inappropriateType _ 20 _ => .notDirectory
  | .inappropriateType _ 21 _ => .isDirectory
  | error => .other (toString error)

/-- What the system answers, or how it refuses. -/
def attempt {α : Type} (action : IO α) : IO (Except FileError α) := do
  try return .ok (← action) catch error => return .error (fileError error)

/-- The rights of one class of users, from three permission bits. -/
def accessRight (bits : Nat) : IO.AccessRight where
  read := bits / 4 % 2 = 1
  write := bits / 2 % 2 = 1
  execution := bits % 2 = 1

/-- Makes a change to the real file system. -/
def performChange : Change → IO Unit
  | .makeDirectories path => IO.FS.createDirAll path.text
  | .setMode path mode => IO.setAccessRights path.text {
      user := accessRight (mode / 64)
      group := accessRight (mode / 8)
      other := accessRight mode }
  | .write path contents => IO.FS.writeBinFile path.text contents
  | .moveFile source target => IO.FS.rename source.text target.text

/-- Carries a script out on the real file system, with `tell` for its log. -/
def perform {α : Type} (tell : Log.Event → IO Unit) : Script α → IO α
  | .done result => return result
  | .isPresent path next => do
    let found ← attempt (IO.FS.realPath path.text)
    perform tell (next found.toBool)
  | .read path next => do
    let contents ← attempt (IO.FS.readBinFile path.text)
    perform tell (next contents)
  | .change change next => do
    let answer ← attempt (performChange change)
    perform tell (next answer)
  | .log event next => do
    tell event
    perform tell next

/-- The settings that decide about color. -/
def coloring : IO Coloring := do
  return {
    plain? := ← IO.getEnv "NO_COLOR"
    force? := ← IO.getEnv "CLICOLOR_FORCE"
    allow? := ← IO.getEnv "CLICOLOR"
    outputIsTerminal := ← (← IO.getStdout).isTty
    errorIsTerminal := ← (← IO.getStderr).isTty }

/-- Runs the program on the words of a command line and gives its exit code. -/
def runProgram (words : List String) : IO UInt32 := do
  let coloring ← coloring
  let filter := Log.Filter.ofSetting (← IO.getEnv "MOBPORTALS_LOG")
  let home := (← IO.getEnv "HOME").filter (· ≠ "")
  let environment : Environment := {
    home := home.map Path.mk
    colored := coloring.output
    time := (← now).reportText }
  let tell (event : Log.Event) : IO Unit := do
    if filter.shows event then
      IO.eprint (logLine coloring.log (← now).logText event)
  let outcome ← perform tell (program environment words)
  IO.print outcome.output
  IO.eprint (outcome.ending.complaint coloring.complaints)
  return outcome.ending.code

end InteractiveMobs.CommandLine

/-- The program. -/
def main (words : List String) : IO UInt32 := InteractiveMobs.CommandLine.runProgram words
