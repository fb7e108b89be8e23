import InteractiveMobs.Catalog.Config

/-!
# The default catalog

The messages in force when an administrator has not written others, and the document they are
first written out as: one quoted line per message, in the order they are meant to be read in.
-/

namespace InteractiveMobs.Defaults
set_option autoImplicit false

/-- The default messages, in document order. -/
def entries : List (String × String) := [
  ("permission-error", "&cYou are missing the \x7b&e\x7d permission!"),
  ("console-command-error", "&cThis command can only be run by a player."),
  ("warp-not-found", "&cWarp \x7b&e\x7d does not exist!"),
  ("warp-success", "&aWarped to \x7b&e\x7d!"),
  ("warp-create-success", "&aWarp \x7b&e\x7d created!"),
  ("warp-delete-success", "&aWarp \x7b&e\x7d deleted!"),
  ("warp-exists-error", "&cWarp \x7b&e\x7d already exists!"),
  ("create-command", "&6Right click a mob to make it interactive."),
  ("remove-command", "&6Right click an interactive mob to remove it."),
  ("edit-cancel", "&7Type &e/ma cancel &7to cancel."),
  ("cancel-success", "&aAction cancelled."),
  ("cancel-error", "&cThere is nothing to cancel."),
  ("action-create-success", "&aInteractive mob created!"),
  ("action-remove-success", "&aInteractive mob removed!"),
  ("mob-exists-error", "&cThat mob is already interactive!"),
  ("mob-not-interactive-error", "&cThat mob is not interactive!"),
  ("command-failed", "&cCommand \x7b&e\x7d failed to run."),
  ("reload-complete", "&aConfiguration reloaded."),
  ("reload-error", "&cFailed to reload the configuration. Check the server log."),
  ("list-header", "&6Available warps &7(\x7b\x7d&7):"),
  ("mob-name-text", "&b\x7b&l\x7d")]

/-- The default catalog. -/
def config : Config := .ofEntries entries

/-- The document the defaults are first written out as. -/
def document : String :=
  "version: 1\nmessages:\n" ++
    String.join (entries.map fun e => "  " ++ e.1 ++ ": \"" ++ e.2 ++ "\"\n")

end InteractiveMobs.Defaults
