import LinkReport.Proofs.Config.Composition
import LinkReport.Proofs.EnvFile.LineEnds
import LinkReport.Proofs.EnvFile.Literals
import LinkReport.Proofs.EnvFile.Remarks

/-!
# One configuration, spelled in several ways

Which details of the spelling of a file make a difference to what is loaded. A value in single
quotes is taken as it stands, and the style of the line ends has no part in it. A remark after a
value and a missing line feed at the end of the file ought to have none either. The theorems say
exactly when they have.

* `load_singleQuoted` a value in single quotes
* `load_remarked_iff` a remark after a value
* `load_withReturns` carriage returns before the line feeds
* `load_append_lineFeed` the line feed at the end
-/

namespace LinkReport.Config

/-- One of the two variables that configure. -/
inductive Setting where
  | level
  | filter

namespace Setting

/-- The name of the variable. -/
def name : Setting → String
  | level => logLevelKey
  | filter => logFilterKey

/-- The name of the variable as a key of a file. -/
def key (setting : Setting) : EnvFile.Key where
  first := 'C'
  rest := setting.name.toList.tail
  isKeyStart_first := rfl
  isKeyChar_rest := List.all_eq_true.1 (by cases setting <;> decide)

theorem text_key (setting : Setting) : setting.key.text = setting.name.toList := by
  cases setting <;> rfl

end Setting

variable {env : Environment} {path : String}

/-! ## Values in single quotes -/

/-- The value of a variable that the environment does not set comes from its only entry. -/
theorem layered_singleton {name : String} (henv : env.text? name = none) (value : List Char)
    (other : String) :
    layered env [(name.toList, value)] other =
      if other = name then some value else env.text? other := by
  unfold layered EnvFile.lastValue?
  split
  · next hother =>
    rw [hother, henv]
    simp
  · next hother =>
    have hne : other.toList ≠ name.toList := mt String.toList_inj.1 hother
    simp [List.lookup_cons, beq_eq_false_iff_ne.2 hne]

/-- The configuration that one entry without names makes. -/
theorem ofEntries_singleton (setting : Setting) (henv : env.text? setting.name = none)
    (value : List Char) :
    ofEntries env [⟨setting.key.text, EnvFile.Template.ofText value⟩] =
      ofVariables fun name => if name = setting.name then some value else env.text? name := by
  have hbindings :
      EnvFile.bindEntries env [] [⟨setting.key.text, EnvFile.Template.ofText value⟩] =
        [(setting.name.toList, value)] := by
    show [(setting.key.text, EnvFile.Template.fill _ (EnvFile.Template.ofText value))] = _
    rw [setting.text_key, EnvFile.Template.fill_ofText]
  unfold ofEntries
  rw [hbindings]
  congr 1
  funext other
  exact layered_singleton henv value other

theorem nonBlank?_some (value : List Char) :
    nonBlank? (some value) =
      if Text.trim value = [] then none else some (String.ofList (Text.trim value)) := rfl

theorem getD_nonBlank?_some (value : List Char) :
    (nonBlank? (some value)).getD defaultLogLevel =
      if Text.trim value = [] then "warn" else String.ofList (Text.trim value) := by
  rw [nonBlank?_some]
  split <;> rfl

/-- A value in single quotes loads exactly if an even number of backslashes stands before the
closing quote, and then it is taken as it stands, trimmed, with the default for a blank one. -/
theorem load_singleQuoted (setting : Setting) (henv : env.text? setting.name = none)
    {value : List Char} (hvalue : '\'' ∉ value) (path : String) :
    ((∃ c, load env ⟨path,
        .file (Text.utf8 (EnvFile.singleQuoted setting.key value ++ ['\n']))⟩ = .ok c) ↔
      Even (EnvFile.finalBackslashes value)) ∧
    ∀ c, load env ⟨path,
        .file (Text.utf8 (EnvFile.singleQuoted setting.key value ++ ['\n']))⟩ = .ok c →
      match setting with
      | .level =>
        c.logLevel =
            (if Text.trim value = [] then "warn" else String.ofList (Text.trim value)) ∧
          c.logFilter = (ofEnvironment env).logFilter
      | .filter =>
        c.logFilter =
            (if Text.trim value = [] then none else some (String.ofList (Text.trim value))) ∧
          c.logLevel = (ofEnvironment env).logLevel := by
  have hentries := EnvFile.entries_singleQuoted setting.key hvalue
  by_cases heven : Even (EnvFile.finalBackslashes value)
  · rw [if_pos heven] at hentries
    rw [load_of_entries hentries, ofEntries_singleton setting henv]
    refine ⟨iff_of_true ⟨_, rfl⟩ heven, fun c hc => ?_⟩
    rw [← Except.ok.inj hc]
    have hne : logFilterKey ≠ logLevelKey := by decide
    cases setting with
    | level =>
      show (nonBlank? (if logLevelKey = logLevelKey then some value else
          env.text? logLevelKey)).getD defaultLogLevel = _ ∧
        nonBlank? (if logFilterKey = logLevelKey then some value else env.text? logFilterKey) = _
      rw [if_pos rfl, if_neg hne, getD_nonBlank?_some]
      exact ⟨rfl, rfl⟩
    | filter =>
      show nonBlank? (if logFilterKey = logFilterKey then some value else
          env.text? logFilterKey) = _ ∧
        (nonBlank? (if logLevelKey = logFilterKey then some value else
          env.text? logLevelKey)).getD defaultLogLevel = _
      rw [if_pos rfl, if_neg hne.symm, nonBlank?_some]
      exact ⟨rfl, rfl⟩
  · rw [if_neg heven] at hentries
    rw [load_of_entries_error hentries]
    exact ⟨iff_of_false nofun heven, nofun⟩

/-- A value with quotes, a name, a line feed and backslashes. -/
def pathValue : List Char :=
  " C:\\temp\n# \"$X\"\\\\".toList

/-- A value of two lines that ends in two backslashes is taken as it stands. -/
theorem load_singleQuoted_pathValue :
    Environment.empty.text? Setting.filter.name = none ∧ '\'' ∉ pathValue ∧
      load .empty ⟨"/srv",
          .file (Text.utf8 (EnvFile.singleQuoted Setting.filter.key pathValue ++ ['\n']))⟩ =
        .ok ⟨"warn", some "C:\\temp\n# \"$X\"\\\\"⟩ := by
  have henv : Environment.empty.text? Setting.filter.name = none := rfl
  have hvalue : '\'' ∉ pathValue := by decide
  obtain ⟨hiff, hfields⟩ := load_singleQuoted .filter henv hvalue "/srv"
  have heven : Even (EnvFile.finalBackslashes pathValue) := by decide
  obtain ⟨c, hload⟩ := hiff.2 heven
  obtain ⟨hfilter, hlevel⟩ := hfields c hload
  have hconfig : c = ⟨"warn", some "C:\\temp\n# \"$X\"\\\\"⟩ := congrArg₂ Config.mk hlevel hfilter
  exact ⟨henv, hvalue, hconfig ▸ hload⟩

/-! ## Remarks after values -/

/-- A remark after a value makes no difference exactly if an odd number of blanks stands before
it, or if it leaves no quotation open, as one without quotes does. -/
theorem load_remarked_iff (k : EnvFile.Key) (word : EnvFile.Word) (gap : EnvFile.Gap)
    (remark : EnvFile.Remark) :
    ((∀ (env : Environment) (path : String) (rest : List UInt8),
      load env ⟨path, .file
          (Text.utf8 (EnvFile.remarked k word gap remark) ++ '\n'.toUInt8 :: rest)⟩ =
        load env ⟨path, .file (Text.utf8 (EnvFile.bare k word) ++ '\n'.toUInt8 :: rest)⟩) ↔
      Odd gap.blanks.length ∨ ¬remark.LeavesQuoteOpen) ∧
    ('\'' ∉ remark.text → '"' ∉ remark.text → ¬remark.LeavesQuoteOpen) := by
  refine ⟨⟨fun hsame => ?_, fun hseen env path rest => ?_⟩, remark.not_leavesQuoteOpen⟩
  · by_contra hunseen
    rw [not_or, not_not] at hunseen
    -- a file that ends after the remark is at fault
    obtain ⟨e, hopen⟩ :=
      EnvFile.exists_entries_remarked_error k word gap remark hunseen.1 hunseen.2
    have hbare : EnvFile.entries (Text.utf8 (EnvFile.bare k word) ++ [10]) =
        .ok [⟨k.text, EnvFile.Template.ofText word.text⟩] := EnvFile.entries_bare k word []
    have hload := (load_of_entries_error hopen).symm.trans
      ((hsame .empty "/srv" []).trans (load_of_entries hbare))
    cases hload
  · apply load_congr_entries
    have hremarked := EnvFile.entries_remarked k word gap remark hseen rest
    exact hremarked.trans (EnvFile.entries_bare k word rest).symm

/-- After two blanks a remark with an apostrophe makes the file unreadable. -/
theorem not_forall_load_remarked :
    ¬∀ (setting : Setting) (word : EnvFile.Word) (gap : EnvFile.Gap) (remark : EnvFile.Remark)
      (env : Environment) (path : String) (rest : List UInt8),
      load env ⟨path, .file
          (Text.utf8 (EnvFile.remarked setting.key word gap remark) ++ '\n'.toUInt8 :: rest)⟩ =
        load env ⟨path, .file
          (Text.utf8 (EnvFile.bare setting.key word) ++ '\n'.toUInt8 :: rest)⟩ := by
  intro h
  have hsame := h .filter ⟨"debug".toList, by decide, List.all_eq_true.1 (by decide)⟩
    ⟨[' ', ' '], by decide, by simp⟩ ⟨" don't".toList, by decide⟩ .empty "/srv" []
  have hfault : load .empty ⟨"/srv", .file
      (Text.utf8 "CPP_EXAMPLE_LOG=debug  # don't\n".toList)⟩ =
        .error (.badFile "/srv/.env"
          (.unreadable "CPP_EXAMPLE_LOG=debug  # don't\n".toList 31)) := rfl
  have hload : load .empty ⟨"/srv", .file (Text.utf8 "CPP_EXAMPLE_LOG=debug\n".toList)⟩ =
      .ok ⟨"warn", some "debug"⟩ := rfl
  exact absurd (hfault.symm.trans (hsame.trans hload)) nofun

/-! ## Line ends -/

/-- Without quotes a file loads the same, or fails with the same error, whether its lines end in
line feeds or in carriage returns and line feeds. -/
theorem load_withReturns {content : List Char} (hreturn : '\r' ∉ content)
    (hsingle : '\'' ∉ content) (hdouble : '"' ∉ content) (env : Environment) (path : String) :
    load env ⟨path, .file (Text.utf8 (EnvFile.withReturns content))⟩ =
      load env ⟨path, .file (Text.utf8 content)⟩ := by
  apply load_congr_entries
  unfold EnvFile.entries
  rw [EnvFile.logicalLines_withReturns hreturn hsingle hdouble]

/-- A file with a blank and a backslash at the ends of lines, whose last line is at fault. -/
def looseEnds : List Char :=
  "CPP_EXAMPLE_LOG=$X \nA=\\$b\\\n\t# c\n\nB=d e\nC=f".toList

/-- The fault of such a file stays the same. -/
theorem load_withReturns_looseEnds :
    '\r' ∉ looseEnds ∧ '\'' ∉ looseEnds ∧ '"' ∉ looseEnds ∧
      load .empty ⟨"/srv", .file (Text.utf8 (EnvFile.withReturns looseEnds))⟩ =
        .error (.badFile "/srv/.env" (.unreadable "d e".toList 2)) := by
  have hreturn : '\r' ∉ looseEnds := by decide
  have hsingle : '\'' ∉ looseEnds := by decide
  have hdouble : '"' ∉ looseEnds := by decide
  have hfault : load .empty ⟨"/srv", .file (Text.utf8 looseEnds)⟩ =
      .error (.badFile "/srv/.env" (.unreadable "d e".toList 2)) := rfl
  exact ⟨hreturn, hsingle, hdouble,
    (load_withReturns hreturn hsingle hdouble .empty "/srv").trans hfault⟩

/-- A file that does not end in a line feed loads as it does with one, unless it ends after a
blank or a backslash that stands outside quotes and not in a comment. -/
theorem load_append_lineFeed {content : List UInt8} (h : ¬EnvFile.EndsLine content)
    (env : Environment) (path : String) (c : Config) :
    load env ⟨path, .file content⟩ = .ok c ↔
      load env ⟨path, .file (content ++ ['\n'.toUInt8])⟩ = .ok c ∧
        ¬EnvFile.LacksLineFeed (EnvFile.logicalLines content) := by
  constructor
  · intro hload
    obtain ⟨es, hes, rfl⟩ := exists_entries_of_load hload
    obtain ⟨hes', hlacks⟩ := (EnvFile.entries_append_lineFeed h).1 hes
    exact ⟨load_of_entries hes', hlacks⟩
  · rintro ⟨hload, hlacks⟩
    obtain ⟨es, hes, rfl⟩ := exists_entries_of_load hload
    exact load_of_entries ((EnvFile.entries_append_lineFeed h).2 ⟨hes, hlacks⟩)

/-- A file of two lines that ends in a remark. -/
def remarkAtEnd : List UInt8 :=
  Text.utf8 "CPP_EXAMPLE_LOG='in\nfo' # don't ".toList

theorem load_append_lineFeed_remarkAtEnd :
    ¬EnvFile.EndsLine remarkAtEnd ∧
      load .empty ⟨"/srv", .file remarkAtEnd⟩ = .ok ⟨"warn", some "in\nfo"⟩ ∧
      load .empty ⟨"/srv", .file (remarkAtEnd ++ ['\n'.toUInt8])⟩ =
        .ok ⟨"warn", some "in\nfo"⟩ ∧
      ¬EnvFile.LacksLineFeed (EnvFile.logicalLines remarkAtEnd) := by
  have hend : ¬EnvFile.EndsLine remarkAtEnd := by decide
  have hload : load .empty ⟨"/srv", .file remarkAtEnd⟩ = .ok ⟨"warn", some "in\nfo"⟩ := rfl
  exact ⟨hend, hload, (load_append_lineFeed hend .empty "/srv" _).1 hload⟩

/-- A file that ends in a blank does not load, and does with a line feed. -/
theorem not_forall_load_append_lineFeed :
    ¬∀ (env : Environment) (path : String) (content : List UInt8), ¬EnvFile.EndsLine content →
      ((∃ c, load env ⟨path, .file content⟩ = .ok c) ↔
        ∃ c, load env ⟨path, .file (content ++ ['\n'.toUInt8])⟩ = .ok c) := by
  intro h
  have hiff := h .empty "/srv" (Text.utf8 "CPP_EXAMPLE_LOG=debug ".toList) (by decide)
  have hload : load .empty ⟨"/srv", .file
      (Text.utf8 "CPP_EXAMPLE_LOG=debug ".toList ++ ['\n'.toUInt8])⟩ =
        .ok ⟨"warn", some "debug"⟩ := rfl
  have hfault : load .empty ⟨"/srv", .file (Text.utf8 "CPP_EXAMPLE_LOG=debug ".toList)⟩ =
      .error (.badFile "/srv/.env" (.unreadable "CPP_EXAMPLE_LOG=debug ".toList 22)) := rfl
  obtain ⟨c, hc⟩ := hiff.2 ⟨_, hload⟩
  exact absurd (hfault.symm.trans hc) nofun

end LinkReport.Config
