import LinkReport.Proofs.Event
import LinkReport.Proofs.Startup
import LinkReport.Proofs.Text.Quoting
import Mathlib.Data.List.DropRight

/-!
# Inspected values

A verdict and a configuration are shown in a log with their strings in quotes. Such a text is on
one line and tells the value. So the record that ends a startup is one line, the last of the log,
and the configuration can be read off it, whatever warning stands before it.

* `Verdict.inspected_injective`, `Config.inspected_injective` nothing is lost
* `Startup.lastLine_log` the last line of the log of a startup
* `inspected_identifies` both together
-/

namespace LinkReport

open Text (IsOneLine isOneLine_append isOneLine_quoted quoted quoted_append_inj)

/-! ## Verdicts -/

namespace Verdict

theorem isOneLine_name (v : Verdict) : IsOneLine v.name := by
  have hnames : ∀ name ∈ ["Pass", "Fail"], IsOneLine name := by decide
  apply hnames
  cases v <;> simp [name]

theorem length_name (v : Verdict) : v.name.toList.length = 4 := by
  have hnames : ∀ name ∈ ["Pass", "Fail"], name.toList.length = 4 := by decide
  apply hnames
  cases v <;> simp [name]

theorem name_append_inj {v w : Verdict} {s t : String} (h : v.name ++ s = w.name ++ t) :
    v.name = w.name ∧ s = t := by
  have hlist : v.name.toList ++ s.toList = w.name.toList ++ t.toList := by
    rw [← String.toList_append, ← String.toList_append, h]
  obtain ⟨hname, hrest⟩ := List.append_inj hlist (v.length_name.trans w.length_name.symm)
  exact ⟨String.toList_inj.1 hname, String.toList_inj.1 hrest⟩

/-- Verdicts of one name with the same strings are the same. -/
theorem ext_of_name {v w : Verdict} (hname : v.name = w.name)
    (hreturned : v.returned = w.returned) (hexpected : v.expected = w.expected) : v = w := by
  have hne : "Pass" ≠ "Fail" := by decide
  cases v with
  | pass returned expected =>
    cases w with
    | pass => exact congrArg₂ pass hreturned hexpected
    | fail => exact absurd hname hne
  | fail returned expected =>
    cases w with
    | pass => exact absurd hname.symm hne
    | fail => exact congrArg₂ fail hreturned hexpected

/-- The text of a verdict tells the outcome and both strings. -/
theorem inspected_injective : Function.Injective inspected := by
  intro v w h
  simp only [inspected, String.append_assoc] at h
  obtain ⟨hname, hrest⟩ := name_append_inj h
  obtain ⟨hreturned, hrest⟩ := quoted_append_inj.1 ((String.append_right_inj _).1 hrest)
  obtain ⟨hexpected, -⟩ := quoted_append_inj.1 ((String.append_right_inj _).1 hrest)
  exact ext_of_name hname hreturned hexpected

theorem isOneLine_inspected (v : Verdict) : IsOneLine v.inspected := by
  simp only [inspected, isOneLine_append]
  exact ⟨⟨⟨⟨⟨v.isOneLine_name, by decide⟩, isOneLine_quoted _⟩, by decide⟩, isOneLine_quoted _⟩,
    by decide⟩

end Verdict

/-! ## Configurations -/

namespace Config

/-- A filter in the text of a configuration. -/
def inspectedFilter : Option String → String
  | some filter => "Some(" ++ quoted filter ++ ")"
  | none => "None"

theorem inspected_eq (c : Config) :
    c.inspected = "Config \x7b log_level: " ++ quoted c.logLevel ++ ", log_filter: " ++
      inspectedFilter c.logFilter ++ " \x7d" := by
  unfold inspected inspectedFilter
  cases c.logFilter <;> rfl

theorem inspectedFilter_append_inj {filter filter' : Option String} {s t : String} :
    inspectedFilter filter ++ s = inspectedFilter filter' ++ t → filter = filter' := by
  have hne (filter : String) (s t : String) :
      "Some(" ++ quoted filter ++ ")" ++ s ≠ "None" ++ t := by
    intro h
    have hhead := congrArg (·.toList.head?) h
    simp at hhead
  intro h
  cases filter with
  | none =>
    cases filter' with
    | none => rfl
    | some filter' => exact absurd h.symm (hne filter' t s)
  | some filter =>
    cases filter' with
    | none => exact absurd h (hne filter s t)
    | some filter' =>
      simp only [inspectedFilter, String.append_assoc] at h
      rw [(quoted_append_inj.1 ((String.append_right_inj _).1 h)).1]

/-- The text of a configuration tells the level and the filter. -/
theorem inspected_injective : Function.Injective inspected := by
  intro c d h
  simp only [inspected_eq, String.append_assoc] at h
  obtain ⟨hlevel, h⟩ := quoted_append_inj.1 ((String.append_right_inj _).1 h)
  have hfilter := inspectedFilter_append_inj ((String.append_right_inj _).1 h)
  exact congrArg₂ Config.mk hlevel hfilter

theorem isOneLine_inspectedFilter (filter : Option String) :
    IsOneLine (inspectedFilter filter) := by
  cases filter with
  | none => decide
  | some filter =>
    simp only [inspectedFilter, isOneLine_append]
    exact ⟨⟨by decide, isOneLine_quoted filter⟩, by decide⟩

theorem isOneLine_inspected (c : Config) : IsOneLine c.inspected := by
  simp only [inspected_eq, isOneLine_append]
  exact ⟨⟨⟨⟨by decide, isOneLine_quoted _⟩, by decide⟩, isOneLine_inspectedFilter _⟩, by decide⟩

/-- The line of a log that tells a configuration. -/
def line (c : Config) : String :=
  "DEBUG cpp_example: configuration loaded config=" ++ c.inspected

theorem line_injective : Function.Injective line :=
  fun _ _ h => inspected_injective ((String.append_right_inj _).1 h)

theorem isOneLine_line (c : Config) : IsOneLine c.line :=
  isOneLine_append.2 ⟨by decide, c.isOneLine_inspected⟩

end Config

theorem Event.record_configurationLoaded (c : Config) :
    (Event.configurationLoaded c).record = c.line ++ "\n" := by
  have hlead : Level.debug.label ++ " " ++ "cpp_example" ++ ": " ++ "configuration loaded" ++
      (" " ++ "config" ++ "=") = "DEBUG cpp_example: configuration loaded config=" := by
    decide +kernel
  have hlevel : (configurationLoaded c).level = .debug := rfl
  have htarget : (configurationLoaded c).target = "cpp_example" := rfl
  have hmessage : (configurationLoaded c).shownMessage = "configuration loaded" := by
    -- nothing in the message is escaped
    have hescaped : "configuration loaded".toList.flatMap escapeControl =
        "configuration loaded".toList := by rfl
    show String.ofList ("configuration loaded".toList.flatMap escapeControl) = _
    rw [hescaped, String.ofList_toList]
  have hfields : String.join ((configurationLoaded c).fields.map fun f =>
      " " ++ f.1 ++ "=" ++ f.2) = " " ++ "config" ++ "=" ++ c.inspected := by
    show String.join [" " ++ "config" ++ "=" ++ c.inspected] = _
    rw [String.join_cons, String.join_nil, String.append_empty]
  rw [record, hlevel, htarget, hmessage, hfields, ← String.append_assoc]
  exact congrArg (fun lead => lead ++ c.inspected ++ "\n") hlead

/-! ## Startups -/

/-- The last line of a text whose lines all end in a line end. -/
def Text.lastLine (text : String) : String :=
  String.ofList (text.toList.dropLast.rtakeWhile (· ≠ '\n'))

/-- After nothing or after a line end, a line is the last one. -/
theorem Text.lastLine_append {before line : String}
    (hbefore : ∀ c ∈ before.toList.getLast?, c = '\n') (hline : IsOneLine line) :
    Text.lastLine (before ++ (line ++ "\n")) = line := by
  have hchars : ∀ c ∈ line.toList.reverse, decide (c ≠ '\n') = true := by
    intro c hc
    rw [decide_eq_true_eq]
    rintro rfl
    exact hline.newline_notMem (List.mem_reverse.1 hc)
  have hstop : ∀ c ∈ before.toList.reverse.head?, decide (c ≠ '\n') = false := by
    intro c hc
    rw [List.head?_reverse] at hc
    simp [hbefore c hc]
  have htext : (before ++ (line ++ "\n")).toList = before.toList ++ line.toList ++ ['\n'] := by
    rw [String.toList_append, String.toList_append, List.append_assoc]
    rfl
  rw [lastLine, htext, List.dropLast_concat, List.rtakeWhile, List.reverse_append,
    Text.takeWhile_run hchars hstop, List.reverse_reverse, String.ofList_toList]

theorem Event.getLast?_record (e : Event) : e.record.toList.getLast? = some '\n' := by
  unfold record
  rw [String.toList_append]
  exact List.getLast?_concat

/-- What is told of a startup ends with its configuration. -/
theorem Surroundings.exists_startupEvents_eq (s : Surroundings) :
    s.startupEvents = [.configurationLoaded s.config] ∨
      ∃ e, s.startupEvents = [.loadFailed e, .configurationLoaded s.config] := by
  unfold startupEvents config
  cases s.load with
  | ok c => exact .inl rfl
  | error e => exact .inr ⟨e, rfl⟩

/-- The log of a startup ends with the line that tells the configuration, if the filter admits
that event. -/
theorem Startup.lastLine_log {s : Surroundings} {startup : Startup}
    (hstart : s.start = .ok startup) {f : Filter}
    (hadmits : f.admits (.configurationLoaded startup.config) = true) :
    Text.lastLine (f.log startup.events) = startup.config.line := by
  obtain ⟨-, hconfig, hevents⟩ := Surroundings.of_start_eq_ok hstart
  have hrecord : f.log [.configurationLoaded startup.config] = startup.config.line ++ "\n" := by
    rw [Filter.log_cons, if_pos hadmits, Event.record_configurationLoaded]
    exact String.append_empty
  have hline := startup.config.isOneLine_line
  rw [hevents]
  rcases s.exists_startupEvents_eq with hquiet | ⟨e, hwarned⟩
  · rw [hquiet, ← hconfig, hrecord, ← String.empty_append (s := _ ++ "\n")]
    exact Text.lastLine_append (fun _ hc => nomatch hc) hline
  · rw [hwarned, ← hconfig, Filter.log_cons, hrecord]
    refine Text.lastLine_append ?_ hline
    intro c hc
    split at hc
    · rw [Event.getLast?_record] at hc
      exact (Option.some.inj hc).symm
    · cases hc

/-! ## Lossless texts -/

/-- Nothing is lost of verdicts and configurations that are inspected, and the text stays on one
line. So the record that ends a startup is one line that tells its configuration, and it is the
last line of the log. -/
theorem inspected_identifies :
    (Function.Injective Verdict.inspected ∧ ∀ v : Verdict, IsOneLine v.inspected) ∧
    (Function.Injective Config.inspected ∧ ∀ c : Config, IsOneLine c.inspected) ∧
    (Function.Injective (fun c : Config => (Event.configurationLoaded c).record) ∧
      ∀ c : Config, (Event.configurationLoaded c).record = c.line ++ "\n" ∧ IsOneLine c.line) ∧
    ∀ (s : Surroundings) (startup : Startup), s.start = .ok startup →
      startup.config = s.config ∧
      startup.events.getLast? = some (.configurationLoaded s.config) ∧
      ∀ f : Filter, f.admits (.configurationLoaded s.config) = true →
        Text.lastLine (f.log startup.events) = s.config.line := by
  refine ⟨⟨Verdict.inspected_injective, Verdict.isOneLine_inspected⟩,
    ⟨Config.inspected_injective, Config.isOneLine_inspected⟩,
    ⟨?_, fun c => ⟨Event.record_configurationLoaded c, c.isOneLine_line⟩⟩, ?_⟩
  · intro c d h
    have hlines : c.line ++ "\n" = d.line ++ "\n" := by
      rw [← Event.record_configurationLoaded, ← Event.record_configurationLoaded]
      exact h
    exact Config.line_injective ((String.append_left_inj _).1 hlines)
  · intro s startup hstart
    obtain ⟨-, hconfig, hevents⟩ := Surroundings.of_start_eq_ok hstart
    refine ⟨hconfig, ?_, fun f hadmits => ?_⟩
    · rw [hevents]
      rcases s.exists_startupEvents_eq with hquiet | ⟨e, hwarned⟩
      · rw [hquiet]
        rfl
      · rw [hwarned]
        rfl
    · rw [← hconfig] at hadmits ⊢
      exact Startup.lastLine_log hstart hadmits

/-- A filter that looks like the end of the text, and then like another field. -/
example : (Config.mk "warn" (some "\") \x7d, log_level: \"\n\u00ad")).inspected =
    "Config \x7b log_level: \"warn\", log_filter: " ++
      "Some(\"\\\") \x7d, log_level: \\\"\\n\\u\x7bad\x7d\") \x7d" := by
  decide

end LinkReport
