import LinkReport.Proofs.Config.Variables
import LinkReport.Proofs.EnvFile.Composition

/-!
# Configurations from files put together

A file that loads may be continued by any other file, if its last line is ended. Whether both
together load is up to the second one. Where no value of the second file names a variable, it
decides about the keys that it binds and leaves the others to the first. A comment or a line of
blanks between the two makes no difference at all.

* `load_append` one file after another
* `load_append_vacant` a line that binds nothing between two files
-/

namespace LinkReport

/-- The file binds the key, to whatever value. -/
def EnvFile.Binds (env : Environment) (content : List UInt8) (key : String) : Prop :=
  ∃ bs, bindings env content = .ok bs ∧ key.toList ∈ bs.map Prod.fst

namespace Config

variable {env : Environment} {path : String} {first : List UInt8} {c : Config}

/-! ## Loading a file by its entries -/

/-- The configuration that entries make in an environment. -/
def ofEntries (env : Environment) (es : List EnvFile.Entry) : Config :=
  ofVariables (layered env (EnvFile.bindEntries env [] es))

theorem load_of_entries {content : List UInt8} {es : List EnvFile.Entry}
    (h : EnvFile.entries content = .ok es) :
    load env ⟨path, .file content⟩ = .ok (ofEntries env es) := by
  have hdirectory : Directory.entries ⟨path, .file content⟩ = .ok es :=
    congrArg (Except.mapError _) h
  rw [load_eq_map_entries, hdirectory]
  rfl

theorem load_of_entries_error {content : List UInt8} {e : EnvFile.Error}
    (h : EnvFile.entries content = .error e) :
    load env ⟨path, .file content⟩ = .error (.badFile (FileTree.join path ".env") e) := by
  have hdirectory : Directory.entries ⟨path, .file content⟩ =
      .error (.badFile (FileTree.join path ".env") e) := congrArg (Except.mapError _) h
  rw [load_eq_map_entries, hdirectory]
  rfl

theorem exists_entries_of_load {content : List UInt8}
    (h : load env ⟨path, .file content⟩ = .ok c) :
    ∃ es, EnvFile.entries content = .ok es ∧ c = ofEntries env es := by
  cases hentries : EnvFile.entries content with
  | error e =>
    rw [load_of_entries_error hentries] at h
    cases h
  | ok es =>
    rw [load_of_entries hentries] at h
    exact ⟨es, rfl, (Except.ok.inj h).symm⟩

/-- Files with the same entries load the same. -/
theorem load_congr_entries {content content' : List UInt8}
    (h : EnvFile.entries content = EnvFile.entries content') :
    load env ⟨path, .file content⟩ = load env ⟨path, .file content'⟩ := by
  cases hentries : EnvFile.entries content' with
  | error e => rw [load_of_entries_error hentries, load_of_entries_error (h.trans hentries)]
  | ok es => rw [load_of_entries hentries, load_of_entries (h.trans hentries)]

/-! ## One file after another -/

/-- A file that loads and one that is at fault are together at the same fault. -/
theorem load_append_eq_error_iff (hend : EnvFile.EndsLine first)
    (hfirst : load env ⟨path, .file first⟩ = .ok c) (second : List UInt8) (e : LoadError) :
    load env ⟨path, .file (first ++ second)⟩ = .error e ↔
      load env ⟨path, .file second⟩ = .error e := by
  obtain ⟨es, hes, -⟩ := exists_entries_of_load hfirst
  have hboth := EnvFile.entries_append hend hes second
  cases hsecond : EnvFile.entries second with
  | error fault =>
    rw [hsecond] at hboth
    rw [load_of_entries_error hboth, load_of_entries_error hsecond]
  | ok fs =>
    rw [hsecond] at hboth
    rw [load_of_entries hboth, load_of_entries hsecond]
    exact iff_of_false (fun h => by cases h) (fun h => by cases h)

section
variable {es fs : List EnvFile.Entry} {key : String}

theorem binds_iff {content : List UInt8} (h : EnvFile.entries content = .ok fs) :
    EnvFile.Binds env content key ↔ key.toList ∈ fs.map EnvFile.Entry.key := by
  have hread : EnvFile.lineEntries (EnvFile.logicalLines content) = .ok fs := h
  have hbindings : EnvFile.bindings env content = .ok (EnvFile.bindEntries env [] fs) := by
    rw [EnvFile.bindings, EnvFile.bindLines_eq_map_bindEntries, hread]
    rfl
  have hkeys : (EnvFile.bindEntries env [] fs).map Prod.fst = fs.map EnvFile.Entry.key :=
    EnvFile.map_fst_bindEntries env [] fs
  rw [EnvFile.Binds, hbindings, ← hkeys]
  constructor
  · rintro ⟨bs, hbs, hkey⟩
    rwa [Except.ok.inj hbs]
  · exact fun hkey => ⟨_, rfl, hkey⟩

/-- Entries without names that stand after others decide about the keys that they bind, and
leave the other keys to those before them. -/
theorem layered_bindEntries_append (hnames : ∀ entry ∈ fs, entry.template.names = []) :
    layered env (EnvFile.bindEntries env [] (es ++ fs)) key =
      if key.toList ∈ fs.map EnvFile.Entry.key then
        layered env (EnvFile.bindEntries env [] fs) key
      else layered env (EnvFile.bindEntries env [] es) key := by
  have hboth : EnvFile.bindEntries env [] (es ++ fs) =
      EnvFile.bindEntries env [] es ++ EnvFile.bindEntries env [] fs := by
    rw [EnvFile.bindEntries_append, EnvFile.bindEntries_of_names_eq_nil hnames,
      EnvFile.bindEntries_of_names_eq_nil hnames, List.nil_append]
  have hkeys : (EnvFile.bindEntries env [] fs).map Prod.fst = fs.map EnvFile.Entry.key :=
    EnvFile.map_fst_bindEntries env [] fs
  rw [layered, hboth, EnvFile.lastValue?_append, ← hkeys]
  split
  · next hkey =>
    obtain ⟨value, hvalue⟩ := Option.ne_none_iff_exists'.1
      (mt EnvFile.lastValue?_eq_none_iff.1 (not_not_intro hkey))
    rw [layered, hvalue, Option.some_or]
  · next hkey =>
    rw [layered, EnvFile.lastValue?_eq_none_iff.2 hkey, Option.none_or]

end

/-- A file that loads and whose last line is ended may stand before any other file. Both
together fail exactly if the second does, with the same error. Where the second loads and holds
no dollar sign, it decides about the fields whose keys it binds, even to blanks, and the first
decides about the others. -/
theorem load_append (hend : EnvFile.EndsLine first)
    (hfirst : load env ⟨path, .file first⟩ = .ok c) (second : List UInt8) :
    (∀ e, load env ⟨path, .file (first ++ second)⟩ = .error e ↔
      load env ⟨path, .file second⟩ = .error e) ∧
    ∀ d, load env ⟨path, .file second⟩ = .ok d → '$'.toUInt8 ∉ second →
      ∃ both, load env ⟨path, .file (first ++ second)⟩ = .ok both ∧
        (EnvFile.Binds env second logLevelKey → both.logLevel = d.logLevel) ∧
        (¬EnvFile.Binds env second logLevelKey → both.logLevel = c.logLevel) ∧
        (EnvFile.Binds env second logFilterKey → both.logFilter = d.logFilter) ∧
        (¬EnvFile.Binds env second logFilterKey → both.logFilter = c.logFilter) := by
  refine ⟨load_append_eq_error_iff hend hfirst second, fun d hsecond hdollar => ?_⟩
  obtain ⟨es, hes, rfl⟩ := exists_entries_of_load hfirst
  obtain ⟨fs, hfs, rfl⟩ := exists_entries_of_load hsecond
  have hboth : EnvFile.entries (first ++ second) = .ok (es ++ fs) := by
    rw [EnvFile.entries_append hend hes, hfs]
    rfl
  have hnames := EnvFile.names_entries hdollar hfs
  refine ⟨ofEntries env (es ++ fs), load_of_entries hboth, ?_⟩
  simp only [binds_iff hfs, ofEntries, ofVariables, layered_bindEntries_append hnames]
  refine ⟨?_, ?_, ?_, ?_⟩ <;> intro hkey <;> simp only [hkey, if_true, if_false]

/-- A file that sets both keys, one of them over two lines. -/
def bothKeys : List UInt8 :=
  Text.utf8 "CPP_EXAMPLE_LOG_LEVEL='in\nfo'\nCPP_EXAMPLE_LOG=debug # for now\n".toList

theorem endsLine_bothKeys : EnvFile.EndsLine bothKeys := by
  decide

theorem load_bothKeys :
    load .empty ⟨"/srv", .file bothKeys⟩ = .ok ⟨"in\nfo", some "debug"⟩ := rfl

/-- A file that sets the filter to a blank. -/
def blankFilter : List UInt8 :=
  Text.utf8 "CPP_EXAMPLE_LOG=\" \"".toList

/-- A blank filter takes the earlier one back, and the level stays. -/
theorem load_append_blankFilter :
    EnvFile.EndsLine bothKeys ∧
      load .empty ⟨"/srv", .file bothKeys⟩ = .ok ⟨"in\nfo", some "debug"⟩ ∧
      load .empty ⟨"/srv", .file blankFilter⟩ = .ok ⟨"warn", none⟩ ∧
      '$'.toUInt8 ∉ blankFilter ∧
      load .empty ⟨"/srv", .file (bothKeys ++ blankFilter)⟩ = .ok ⟨"in\nfo", none⟩ := by
  have hsecond : load .empty ⟨"/srv", .file blankFilter⟩ = .ok ⟨"warn", none⟩ := rfl
  have hdollar : '$'.toUInt8 ∉ blankFilter := by decide
  have hentries : EnvFile.entries blankFilter =
      .ok [⟨"CPP_EXAMPLE_LOG".toList, [.char ' ']⟩] := rfl
  obtain ⟨-, hboth⟩ := load_append endsLine_bothKeys load_bothKeys blankFilter
  obtain ⟨both, hload, -, hlevel, hfilter, -⟩ := hboth _ hsecond hdollar
  have hlevelKey : ¬EnvFile.Binds .empty blankFilter logLevelKey :=
    mt (binds_iff hentries).1 (by decide)
  have hfilterKey : EnvFile.Binds .empty blankFilter logFilterKey :=
    (binds_iff hentries).2 (List.mem_singleton.2 rfl)
  have hconfig : both = ⟨"in\nfo", none⟩ :=
    congrArg₂ Config.mk (hlevel hlevelKey) (hfilter hfilterKey)
  exact ⟨endsLine_bothKeys, load_bothKeys, hsecond, hdollar, hconfig ▸ hload⟩

/-! ## Lines that bind nothing -/

/-- A comment or a line of blanks after a file that loads has no part in what is loaded, or in
the error that the rest of the file gives. -/
theorem load_append_vacant (hend : EnvFile.EndsLine first)
    (hfirst : load env ⟨path, .file first⟩ = .ok c) (rest : List UInt8)
    (indent : EnvFile.Indent) (remark : EnvFile.Remark) :
    load env ⟨path, .file
        (first ++ (Text.utf8 (indent.blanks ++ '#' :: remark.text) ++ '\n'.toUInt8 :: rest))⟩ =
      load env ⟨path, .file (first ++ rest)⟩ ∧
    load env ⟨path, .file (first ++ (Text.utf8 indent.blanks ++ '\n'.toUInt8 :: rest))⟩ =
      load env ⟨path, .file (first ++ rest)⟩ := by
  obtain ⟨es, hes, -⟩ := exists_entries_of_load hfirst
  have hidle (w : EnvFile.Written) (hw : w.binding? = none) :
      EnvFile.entries (first ++ (Text.utf8 w.text ++ 10 :: rest)) =
        EnvFile.entries (first ++ rest) := by
    rw [EnvFile.entries_append hend hes, EnvFile.entries_append hend hes,
      EnvFile.entries_vacant hw]
  exact ⟨load_congr_entries (hidle (.comment indent remark) rfl),
    load_congr_entries (hidle (.vacant indent) rfl)⟩

/-- A file that looks up a variable and whose last line is at fault. -/
def atFault : List UInt8 :=
  Text.utf8 "CPP_EXAMPLE_LOG=$X\nA=b c".toList

/-- Blanks of three kinds. -/
def mixedBlanks : EnvFile.Indent where
  blanks := ['\t', ' ', '\u00a0']
  isBlank_of_mem := List.all_eq_true.1 rfl
  lineFeed_notMem := by decide

/-- A remark that reads like an open quotation. -/
def quotation : EnvFile.Remark where
  text := " don't \\ use \"$X".toList
  lineFeed_notMem := by decide

/-- A comment that reads like an open quotation changes nothing, and the fault stays. -/
theorem load_append_vacant_quotation :
    EnvFile.EndsLine bothKeys ∧
      load .empty ⟨"/srv", .file bothKeys⟩ = .ok ⟨"in\nfo", some "debug"⟩ ∧
      load .empty ⟨"/srv", .file
          (bothKeys ++ (Text.utf8 (mixedBlanks.blanks ++ '#' :: quotation.text) ++
            '\n'.toUInt8 :: atFault))⟩ =
        .error (.badFile "/srv/.env" (.unreadable "b c".toList 2)) := by
  have hfault : load .empty ⟨"/srv", .file (bothKeys ++ atFault)⟩ =
      .error (.badFile "/srv/.env" (.unreadable "b c".toList 2)) :=
    (load_append_eq_error_iff endsLine_bothKeys load_bothKeys atFault _).2 rfl
  have hcomment :=
    (load_append_vacant endsLine_bothKeys load_bothKeys atFault mixedBlanks quotation).1
  exact ⟨endsLine_bothKeys, load_bothKeys, hcomment.trans hfault⟩

end Config
end LinkReport
