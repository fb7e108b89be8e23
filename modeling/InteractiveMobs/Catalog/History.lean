import InteractiveMobs.Catalog.MessageSet

/-!
# The set in force and its snapshots

Readers share one current message set. A snapshot keeps the set of its moment, whatever is
loaded afterwards.
-/

namespace InteractiveMobs
set_option autoImplicit false

/-- The message set in force, and the snapshots taken so far, oldest first. -/
structure History where
  current : MessageSet
  snapshots : List MessageSet

namespace History

/-- A question to one message set. -/
inductive Query where
  | render (key : MessageKey) (args : List String)
  | get (key : MessageKey)
  | keys
  | size
deriving DecidableEq, Repr

/-- The set a question goes to. -/
inductive Target where
  | current
  | snapshot (index : Nat)
deriving DecidableEq, Repr

/-- One use of the catalog. -/
inductive Request where
  | ask (query : Query) (target : Target)
  | takeSnapshot
  | reload (config : Config)

/-- What a request gets back. -/
inductive Answer where
  | rendered (result : Except MessageError String)
  | template (found : Option Template)
  | keys (keys : List MessageKey)
  | size (n : Nat)
  | snapshot (index : Nat)
  | noSuchSnapshot

/-- The set of a document in force, with a first snapshot of it. -/
def ofConfig (config : Config) : History :=
  let messages := MessageSet.ofConfig config
  { current := messages, snapshots := [messages] }

/-- The set a target names. -/
def resolve (history : History) : Target → Option MessageSet
  | .current => some history.current
  | .snapshot index => history.snapshots[index]?

/-- A set's answer to a question, and what asking leaves in the log. -/
def Query.answer (query : Query) (messages : MessageSet) : Answer × List Log.Event :=
  match query with
  | .render key args => (.rendered (messages.render key args), messages.renderEvents key)
  | .get key => (.template (messages.get? key), [])
  | .keys => (.keys messages.keys, [])
  | .size => (.size messages.size, [])

/-- Answers one request. -/
def step (history : History) : Request → History × Answer × List Log.Event
  | .ask query target =>
    match history.resolve target with
    | some messages => (history, query.answer messages)
    | none => (history, .noSuchSnapshot, [])
  | .takeSnapshot =>
    ({ history with snapshots := history.snapshots ++ [history.current] },
      .snapshot history.snapshots.length, [])
  | .reload config =>
    let messages := MessageSet.ofConfig config
    ({ history with current := messages }, .size messages.size, [messages.reloadEvent])

end History
end InteractiveMobs
