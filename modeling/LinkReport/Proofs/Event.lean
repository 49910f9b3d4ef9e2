import LinkReport.Event

/-!
# What is recorded

A filter looks at the level, the target and the names of the fields of an event, and at
nothing else. The log of several events is put together from their records.

* `Filter.log_cons` the log event by event
* `Filter.log_loadFailed` the warning that the configuration could not be loaded
-/

namespace LinkReport

namespace Filter

/-! ## Admission -/

/-- The filter lets events of this level pass that come from `target` and have fields of
these names. -/
def admitsAt (f : Filter) (level : Level) (target : String) (fieldNames : List String) :
    Bool :=
  match f.static.find? fun d =>
    (d.target.all fun prefixed => prefixed.toList.isPrefixOf target.toList) &&
      d.field.all fun field => fieldNames.contains field.name with
  | some d => level.verbosity ≤ d.level.verbosity
  | none => false

theorem admits_eq_admitsAt (f : Filter) (e : Event) :
    f.admits e = f.admitsAt e.level e.target e.fieldNames := rfl

/-! ## Logs -/

theorem log_cons (f : Filter) (e : Event) (events : List Event) :
    f.log (e :: events) = (if f.admits e then e.record else "") ++ f.log events := by
  rw [log, log]
  by_cases hadmits : f.admits e = true
  · rw [List.filter_cons_of_pos hadmits, List.map_cons, String.join_cons, if_pos hadmits]
  · rw [List.filter_cons_of_neg hadmits, if_neg hadmits, String.empty_append]

theorem log_append (f : Filter) (events events' : List Event) :
    f.log (events ++ events') = f.log events ++ f.log events' := by
  rw [log, log, log, List.filter_append, List.map_append, String.join_append]

/-- Events of which none passes leave nothing in the log. -/
theorem log_eq_empty {f : Filter} {events : List Event}
    (h : ∀ e ∈ events, f.admits e = false) : f.log events = "" := by
  induction events with
  | nil => rfl
  | cons e events ih =>
    have hfirst : f.admits e = false := h e List.mem_cons_self
    have hrest := ih fun d hd => h d (List.mem_cons_of_mem e hd)
    rw [log_cons, hfirst, hrest]
    rfl

end Filter

/-! ## The warning of a startup -/

/-- The line that warns of a configuration that could not be loaded. -/
def Config.LoadError.warning (e : Config.LoadError) : String :=
  " WARN cpp_example: " ++
    String.ofList ((e.message ++ "; using defaults").toList.flatMap Event.escapeControl) ++ "\n"

theorem Event.record_loadFailed (e : Config.LoadError) :
    (Event.loadFailed e).record = e.warning := by
  have hlead : Level.warn.label ++ " " ++ "cpp_example" ++ ": " = " WARN cpp_example: " := by
    decide +kernel
  have hfields : String.join ((loadFailed e).fields.map fun f => " " ++ f.1 ++ "=" ++ f.2) = "" :=
    String.join_nil
  have hlevel : (loadFailed e).level = .warn := rfl
  have htarget : (loadFailed e).target = "cpp_example" := rfl
  have hmessage : (loadFailed e).shownMessage =
      String.ofList ((e.message ++ "; using defaults").toList.flatMap escapeControl) := rfl
  rw [record, hfields, String.append_empty, hlevel, htarget, hlead]
  exact congrArg (fun text => " WARN cpp_example: " ++ text ++ "\n") hmessage

/-- The warning as a filter records it. -/
def Config.LoadError.recorded (e : Config.LoadError) (f : Filter) : String :=
  if f.admitsAt .warn "cpp_example" ["message"] then e.warning else ""

/-- A log that starts with the load error is that of the other events after the warning, and
the warning is there exactly if the filter admits warnings from the library. -/
theorem Filter.log_loadFailed (f : Filter) (e : Config.LoadError) (events : List Event) :
    f.log (.loadFailed e :: events) = e.recorded f ++ f.log events := by
  rw [log_cons, admits_eq_admitsAt, Event.record_loadFailed]
  rfl

end LinkReport
