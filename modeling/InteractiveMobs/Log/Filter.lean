import InteractiveMobs.Log.Item

/-!
# Filters

Which log events are shown. A setting lists directives, divided by commas. Of the directives that
hold for an event the closest decides.
-/

namespace InteractiveMobs.Log
set_option autoImplicit false

/-- The directives of a setting. -/
abbrev Filter := List Directive

namespace Filter

/-- The filter of a setting. Without directives errors are shown; without a setting, or if an item
of it is no directive, warnings are. -/
def ofSetting : Option String → Filter
  | none => [{ verbosity := .warn }]
  | some setting =>
    let items := ((setting.splitOn ",").map String.toList).filter (!·.isEmpty)
    match items.mapM Directive.ofItem? with
    | some [] => [{ verbosity := .error }]
    | some directives => directives
    | none => [{ verbosity := .warn }]

/-- The directive that decides on an event: the closest, of several the last. -/
def decisive? (filter : Filter) (event : Event) : Option Directive :=
  (filter.filter (·.subject.includes event)).foldl (fun best directive =>
    if best.any fun best => best.subject.isCloser directive.subject then best
    else some directive) none

/-- Whether an event is shown. -/
def shows (filter : Filter) (event : Event) : Bool :=
  (filter.decisive? event).any (·.verbosity.shows event.level)

end Filter
end InteractiveMobs.Log
