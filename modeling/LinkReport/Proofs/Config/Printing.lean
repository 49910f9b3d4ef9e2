import LinkReport.Proofs.CommandLine.Outcome
import LinkReport.Proofs.Text.Labels
import Mathlib.Data.List.TakeWhile

/-!
# Printed configurations

The user is shown a configuration with its texts as they are, with nothing in quotes. Level and
filter can be read off what is shown as long as the level has no line end; what a filter holds, be
it labels or whole lines, does no harm. One filter looks like none: the text that is shown for it.

* `printed_eq_printed_iff` which configurations look the same
* `ofPrinted?_printed_iff` which configurations can be read back
* `printed_identifies` legible configurations are told apart by their texts
* `Program.ofPrinted?_stdout_iff` what a user can read off a run of the demo program
-/

namespace LinkReport.Config

variable {c d : Config}

/-! ## The text -/

/-- What every text begins with. -/
def heading : String := "Configuration:\n"

/-- What stands before the level. -/
def levelLabel : String := "  CPP_EXAMPLE_LOG_LEVEL: "

/-- What stands before the filter. -/
def filterLabel : String := "  CPP_EXAMPLE_LOG: "

/-- What is shown for the filter. -/
def shownFilter (c : Config) : String :=
  c.logFilter.getD unsetText

/-- Between the heading and the last line end stand the level and the filter. -/
theorem toList_printed (c : Config) :
    c.printed.toList = heading.toList ++ levelLabel.toList ++
      (c.logLevel.toList ++ '\n' :: (filterLabel.toList ++ c.shownFilter.toList)) ++ ['\n'] := by
  have htext : CommandLine.configText c = heading ++ (levelLabel ++ c.logLevel ++ "\n") ++
      (filterLabel ++ c.shownFilter ++ "\n") := rfl
  rw [CommandLine.printed_eq_configText, htext]
  simp

/-! ## Texts that are the same -/

/-- The level of `d` goes on with a line that looks like that of a filter, and the filter that is
shown for `c` begins with the rest of that line. -/
def RunsOver (c d : Config) : Prop :=
  ∃ middle, d.logLevel = c.logLevel ++ "\n" ++ filterLabel ++ middle ∧
    c.shownFilter = middle ++ "\n" ++ filterLabel ++ d.shownFilter

theorem runsOver_iff :
    RunsOver c d ↔
      ∃ middle, d.logLevel.toList = c.logLevel.toList ++ '\n' :: (filterLabel.toList ++ middle) ∧
        c.shownFilter.toList = middle ++ '\n' :: (filterLabel.toList ++ d.shownFilter.toList) := by
  simp only [RunsOver, ← String.toList_inj, String.toList_append, List.append_assoc]
  constructor
  · rintro ⟨middle, hlevel, hfilter⟩
    exact ⟨middle.toList, hlevel, hfilter⟩
  · rintro ⟨middle, hlevel, hfilter⟩
    exact ⟨String.ofList middle, by simpa using hlevel, by simpa using hfilter⟩

/-- Two configurations look the same if they are shown with the same level and filter, or if one of
them has a line in its level that looks like that of the filter. -/
theorem printed_eq_printed_iff :
    c.printed = d.printed ↔
      (c.logLevel = d.logLevel ∧ c.shownFilter = d.shownFilter) ∨ RunsOver c d ∨ RunsOver d c := by
  have hlabel : '\n' ∉ filterLabel.toList := by decide
  rw [← String.toList_inj, toList_printed, toList_printed, List.append_left_inj,
    List.append_right_inj, Text.append_separator_eq_iff hlabel, runsOver_iff, runsOver_iff,
    String.toList_inj, String.toList_inj]

/-- A line of the level is taken for that of the filter. -/
example : (Config.mk "a\n  CPP_EXAMPLE_LOG: b" (some "c")).printed =
    (Config.mk "a" (some "b\n  CPP_EXAMPLE_LOG: c")).printed := by
  decide

/-- A level on one line holds no line of a filter. -/
theorem not_runsOver (h : '\n' ∉ d.logLevel.toList) : ¬RunsOver c d := by
  rintro ⟨middle, hlevel, -⟩
  simp [hlevel] at h

/-! ## Reading back -/

/-- The filter that is meant by what is shown for it. -/
def ofShownFilter (text : String) : Option String :=
  if text = unsetText then none else some text

theorem ofShownFilter_shownFilter :
    ofShownFilter c.shownFilter = c.logFilter ↔ c.logFilter ≠ some unsetText := by
  unfold ofShownFilter shownFilter
  cases hfilter : c.logFilter with
  | none => simp
  | some filter => simp

/-- The level in a text: what stands after its label, up to the second line end. -/
def printedLevel? (text : String) : Option String := do
  let cut ← Text.cutAt? '\n' 1 text.toList
  let level ← Text.after? levelLabel.toList cut.1
  return String.ofList level

/-- What is shown for the filter in a text: what stands after its label, past the second line end
and up to the last one. -/
def printedFilter? (text : String) : Option String := do
  let cut ← Text.cutAt? '\n' 1 text.toList
  let filter ← (← Text.after? filterLabel.toList cut.2).dropSuffix? ['\n']
  return String.ofList filter

/-- The configuration in a text. -/
def ofPrinted? (text : String) : Option Config := do
  let logLevel ← printedLevel? text
  let filter ← printedFilter? text
  return { logLevel, logFilter := ofShownFilter filter }

/-- It shows where the level ends and whether there is a filter. -/
structure IsLegible (c : Config) : Prop where
  newline_notMem : '\n' ∉ c.logLevel.toList
  logFilter_ne : c.logFilter ≠ some unsetText

/-- A text up to its first line end. -/
def firstLine (s : String) : String :=
  String.ofList (s.toList.takeWhile (· ≠ '\n'))

theorem firstLine_eq_self_iff {s : String} : firstLine s = s ↔ '\n' ∉ s.toList := by
  rw [firstLine, ← String.toList_inj, String.toList_ofList, List.takeWhile_eq_self_iff]
  constructor
  · intro hall hmem
    simpa using hall '\n' hmem
  · intro hnot ch hmem
    rw [decide_eq_true_eq]
    rintro rfl
    exact hnot hmem

/-- The second line end of the text is the first one after the label of the level. -/
theorem cutAt?_printed {line rest : List Char} (hline : '\n' ∉ line)
    (htext : c.logLevel.toList ++ '\n' :: (filterLabel.toList ++ c.shownFilter.toList ++ ['\n']) =
      line ++ '\n' :: rest) :
    Text.cutAt? '\n' 1 c.printed.toList =
      some (heading.toList ++ levelLabel.toList ++ line, rest) := by
  have hlead : (heading.toList ++ levelLabel.toList).count '\n' = 1 := by decide
  have hprinted : c.printed.toList = heading.toList ++ levelLabel.toList ++
      (c.logLevel.toList ++ '\n' :: (filterLabel.toList ++ c.shownFilter.toList ++ ['\n'])) := by
    rw [toList_printed]
    simp only [List.append_assoc, List.cons_append]
  rw [Text.cutAt?_eq_some_iff]
  constructor
  · rw [hprinted, htext, List.append_assoc _ line]
  · rw [List.count_append, hlead, List.count_eq_zero_of_not_mem hline]

/-- Of the level the first line is read. -/
theorem printedLevel?_printed (c : Config) :
    printedLevel? c.printed = some (firstLine c.logLevel) := by
  obtain ⟨rest, hrest⟩ := Text.exists_takeWhile_append_cons (a := '\n') c.logLevel.toList
    (filterLabel.toList ++ c.shownFilter.toList ++ ['\n'])
  have hline : '\n' ∉ c.logLevel.toList.takeWhile (· ≠ '\n') := fun hmem =>
    absurd (List.mem_takeWhile_imp hmem) (by decide)
  have hlabel : Text.after? levelLabel.toList (heading.toList ++ levelLabel.toList ++
      c.logLevel.toList.takeWhile (· ≠ '\n')) = some (c.logLevel.toList.takeWhile (· ≠ '\n')) :=
    Text.after?_append (a := ' ') rfl (by decide)
  simp only [printedLevel?, cutAt?_printed hline hrest, hlabel, Option.bind_eq_bind,
    Option.bind_some]
  rfl

/-- After a level on one line the filter is read as it is shown. -/
theorem printedFilter?_printed (h : '\n' ∉ c.logLevel.toList) :
    printedFilter? c.printed = some c.shownFilter := by
  have hlabel : Text.after? filterLabel.toList (filterLabel.toList ++ c.shownFilter.toList ++
      ['\n']) = some (c.shownFilter.toList ++ ['\n']) := by
    rw [List.append_assoc]
    show Text.after? filterLabel.toList ([] ++ filterLabel.toList ++ _) = _
    exact Text.after?_append (a := ' ') rfl List.not_mem_nil
  have hend : (c.shownFilter.toList ++ ['\n']).dropSuffix? ['\n'] = some c.shownFilter.toList :=
    List.dropSuffix?_eq_some_iff.2 ⟨['\n'], rfl, BEq.rfl⟩
  simp only [printedFilter?, cutAt?_printed h rfl, hlabel, hend, Option.bind_eq_bind,
    Option.bind_some]
  exact congrArg some String.ofList_toList

/-- A configuration is read back exactly if it is legible. -/
theorem ofPrinted?_printed_iff : ofPrinted? c.printed = some c ↔ c.IsLegible := by
  rw [ofPrinted?, printedLevel?_printed, Option.bind_eq_bind, Option.bind_some]
  constructor
  · intro h
    obtain ⟨filter, hfilter, hread⟩ := Option.bind_eq_some_iff.1 h
    have hlevel := congrArg Config.logLevel (Option.some.inj hread)
    have hnewline : '\n' ∉ c.logLevel.toList := firstLine_eq_self_iff.1 hlevel
    rw [printedFilter?_printed hnewline, Option.some.injEq] at hfilter
    subst hfilter
    have hshown := congrArg Config.logFilter (Option.some.inj hread)
    exact ⟨hnewline, ofShownFilter_shownFilter.1 hshown⟩
  · intro h
    rw [firstLine_eq_self_iff.2 h.newline_notMem, printedFilter?_printed h.newline_notMem,
      Option.bind_some, ofShownFilter_shownFilter.2 h.logFilter_ne]
    rfl

/-! ## Telling apart -/

/-- Legible configurations are told apart by their texts, and level and filter can be read off
them: the level up to the second line end, and then what is shown for the filter. -/
theorem printed_identifies (hc : c.IsLegible) (hd : d.IsLegible) :
    (c.printed = d.printed ↔ c = d) ∧
      printedLevel? c.printed = some c.logLevel ∧
      printedFilter? c.printed = some (c.logFilter.getD unsetText) ∧
      ofPrinted? c.printed = some c := by
  refine ⟨⟨fun h => ?_, congrArg printed⟩, ?_, printedFilter?_printed hc.newline_notMem,
    ofPrinted?_printed_iff.2 hc⟩
  · obtain ⟨hlevel, hshown⟩ : c.logLevel = d.logLevel ∧ c.shownFilter = d.shownFilter := by
      rcases printed_eq_printed_iff.1 h with hsame | hover | hover
      · exact hsame
      · exact absurd hover (not_runsOver hd.newline_notMem)
      · exact absurd hover (not_runsOver hc.newline_notMem)
    have hfilter : c.logFilter = d.logFilter := by
      rw [← ofShownFilter_shownFilter.2 hc.logFilter_ne, hshown,
        ofShownFilter_shownFilter.2 hd.logFilter_ne]
    exact congrArg₂ Config.mk hlevel hfilter
  · rw [printedLevel?_printed, firstLine_eq_self_iff.2 hc.newline_notMem]

/-- A configuration whose texts look like the lines of such a text. -/
def echoing : Config where
  logLevel := levelLabel ++ "warn"
  logFilter := some ("a: b\n" ++ filterLabel ++ unsetText ++ "\n")

/-- The labels in a level and a filter are not taken for those of the text. -/
theorem printed_identifies_echoing :
    echoing.IsLegible ∧ default.IsLegible ∧ echoing.printed ≠ default.printed ∧
      printedFilter? echoing.printed = some ("a: b\n" ++ filterLabel ++ unsetText ++ "\n") ∧
      ofPrinted? echoing.printed = some echoing := by
  have hechoing : echoing.IsLegible := ⟨by decide, by decide⟩
  have hdefault : default.IsLegible := ⟨by decide, by decide⟩
  obtain ⟨htold, -, hfilter, hread⟩ := printed_identifies hechoing hdefault
  exact ⟨hechoing, hdefault, fun h => absurd (htold.1 h) (by decide), hfilter, hread⟩

end LinkReport.Config

namespace LinkReport.CommandLine.Program

variable {arguments : List String} {given : List Flag} {s : Surroundings} {out : Output}

/-! ## Runs -/

/-- What the demo program shows when it is asked for the configuration tells the one that it
started with, exactly if that is legible. -/
theorem ofPrinted?_stdout_iff (haccepts : demo.Accepts arguments given)
    (hshow : .showConfig ∈ given) (hrun : demo.run arguments s = .ok out) :
    Config.ofPrinted? out.stdout = some s.config ↔ s.config.IsLegible := by
  obtain ⟨startup, hstart, rfl⟩ := of_run_eq_ok haccepts hrun
  obtain ⟨-, hconfig, -⟩ := Surroundings.of_start_eq_ok hstart
  have hshown : (demo.work given startup.config).shown = s.config.printed := by
    rw [work, if_pos (List.contains_iff_mem.2 hshow), hconfig]
  rw [output, hshown]
  exact Config.ofPrinted?_printed_iff

end LinkReport.CommandLine.Program
