import LinkReport.Proofs.SemanticVersion
import LinkReport.Proofs.Text.Joining
import LinkReport.Proofs.VersionStamp.Nearest

/-!
# The directives of a build

The build tool takes each line of what a build prints as a directive. A build prints the
version that its lock file tells as it stands there, so the output is as good as that version:
all lines are directives, and the only one that sets a variable stamps a semantic version,
exactly if the first line of the version is a semantic version and the lines after it are
directives that set no variable.

* `BuildSite.IsWellFormed` what an output should be, `BuildSite.IsHarmless` what a version
  should be for it
* `BuildSite.printed_inj` the lines of an output can be told from it
* `BuildSite.output_isWellFormed_iff` the lock files with which the output is well-formed
-/

namespace LinkReport.BuildSite

theorem newline_notMem_append {s t : String} :
    '\n' ∉ (s ++ t).toList ↔ '\n' ∉ s.toList ∧ '\n' ∉ t.toList := by
  rw [String.toList_append, List.mem_append, not_or]

/-! ## Directives -/

/-- A directive to the build tool: a key, and what it is set to. -/
structure Directive where
  key : String
  value : String
  key_ne : key ≠ ""
  equals_notMem_key : '=' ∉ key.toList
  newline_notMem_key : '\n' ∉ key.toList
  newline_notMem_value : '\n' ∉ value.toList

/-- The directive as a line. -/
def Directive.line (d : Directive) : String :=
  "cargo::" ++ d.key ++ "=" ++ d.value

/-- The directive sets a variable of the compiler. -/
def Directive.setsVariable (d : Directive) : Bool :=
  d.key == "rustc-env"

theorem Directive.newline_notMem_line (d : Directive) : '\n' ∉ d.line.toList := by
  simp only [line, newline_notMem_append]
  exact ⟨⟨⟨by decide, d.newline_notMem_key⟩, by decide⟩, d.newline_notMem_value⟩

/-- The key ends at the first equals sign, so a line is that of one directive only. -/
theorem Directive.line_injective : Function.Injective Directive.line := by
  rintro ⟨key, value, _, hkey, _, _⟩ ⟨key', value', _, hkey', _, _⟩ h
  have hlist : key.toList ++ '=' :: value.toList = key'.toList ++ '=' :: value'.toList := by
    simpa [line, ← String.toList_inj] using h
  obtain ⟨hkeys, hvalues⟩ := (Text.append_cons_inj hkey hkey').1 hlist
  rw [String.toList_inj] at hkeys hvalues
  subst hkeys hvalues
  rfl

/-- The key of an instruction. -/
def Instruction.key : Instruction → String
  | .rerunIfChanged _ => "rerun-if-changed"
  | .warnUnresolved => "warning"
  | .stamp _ => "rustc-env"

/-- What an instruction sets its key to. -/
def Instruction.value : Instruction → String
  | .rerunIfChanged path => path
  | .warnUnresolved => "no locked serde_json version found, reporting 1.0.0+unresolved"
  | .stamp version => "CPP_EXAMPLE_JSON_VERSION=" ++ version

theorem Instruction.key_isKey (i : Instruction) :
    i.key ≠ "" ∧ '=' ∉ i.key.toList ∧ '\n' ∉ i.key.toList := by
  have hkeys : ∀ key ∈ ["rerun-if-changed", "warning", "rustc-env"],
      key ≠ "" ∧ '=' ∉ key.toList ∧ '\n' ∉ key.toList := by decide
  apply hkeys
  cases i <;> simp [key]

/-- An instruction on one line is a directive. -/
def Instruction.directive (i : Instruction) (h : '\n' ∉ i.value.toList) : Directive where
  key := i.key
  value := i.value
  key_ne := i.key_isKey.1
  equals_notMem_key := i.key_isKey.2.1
  newline_notMem_key := i.key_isKey.2.2
  newline_notMem_value := h

theorem Instruction.line_directive (i : Instruction) (h : '\n' ∉ i.value.toList) :
    (i.directive h).line = i.line := by
  cases i <;> rfl

theorem newline_notMem_stamp {version : String} (h : '\n' ∉ version.toList) :
    '\n' ∉ (Instruction.stamp version).value.toList :=
  newline_notMem_append.2 ⟨by decide, h⟩

/-- The directive that stamps a build with a version. -/
def stamping (version : String) (h : '\n' ∉ version.toList) : Directive :=
  (Instruction.stamp version).directive (newline_notMem_stamp h)

/-- The directive to build again when the build itself changes. -/
def rebuilding : Directive :=
  have h : '\n' ∉ "build.rs".toList := by decide
  (Instruction.rerunIfChanged "build.rs").directive h

/-- Instructions on one line each, none of them a stamp, are directives that set no variable. -/
theorem exists_directives {is : List Instruction} (hlines : ∀ i ∈ is, '\n' ∉ i.value.toList)
    (hstamp : ∀ version, Instruction.stamp version ∉ is) :
    ∃ ds : List Directive, ds.map Directive.line = is.map Instruction.line ∧
      ∀ d ∈ ds, d.setsVariable = false := by
  refine ⟨is.pmap Instruction.directive hlines, ?_, ?_⟩
  · rw [List.map_pmap]
    simp only [Instruction.line_directive]
    exact List.pmap_eq_map hlines
  · intro d hd
    obtain ⟨i, hi, rfl⟩ := List.mem_pmap.1 hd
    cases i with
    | rerunIfChanged path => rfl
    | warnUnresolved => rfl
    | stamp version => exact absurd hi (hstamp version)

/-! ## Lines -/

theorem printed_append (before after : List String) :
    printed (before ++ after) = printed before ++ printed after := by
  simp [printed]

/-- The lines of an output can be told from it. -/
theorem printed_inj {lines lines' : List String} (h : ∀ line ∈ lines, '\n' ∉ line.toList)
    (h' : ∀ line ∈ lines', '\n' ∉ line.toList) :
    printed lines = printed lines' ↔ lines = lines' := by
  constructor
  · intro heq
    induction lines generalizing lines' with
    | nil =>
      cases lines' with
      | nil => rfl
      | cons line' lines' => simp [printed] at heq
    | cons line lines ih =>
      cases lines' with
      | nil => simp [printed] at heq
      | cons line' lines' =>
        have hlist : line.toList ++ '\n' :: (printed lines).toList =
            line'.toList ++ '\n' :: (printed lines').toList := by
          simpa [printed_cons, ← String.toList_inj] using heq
        rw [List.forall_mem_cons] at h h'
        obtain ⟨hline, hlines⟩ := (Text.append_cons_inj h.1 h'.1).1 hlist
        rw [String.toList_inj] at hline hlines
        rw [hline, ih h.2 h'.2 hlines]
  · rintro rfl
    rfl

/-- Any text falls into lines. -/
theorem exists_lines (text : String) :
    ∃ first rest, text ++ "\n" = printed (first :: rest) ∧
      ∀ line ∈ first :: rest, '\n' ∉ line.toList := by
  induction h : text.toList generalizing text with
  | nil =>
    rw [String.toList_eq_nil_iff] at h
    subst h
    exact ⟨"", [], rfl, by simp⟩
  | cons c cs ih =>
    obtain ⟨first, rest, htext, hlines⟩ := ih (String.ofList cs) String.toList_ofList
    have hsplit : text ++ "\n" = String.ofList [c] ++ (String.ofList cs ++ "\n") := by
      simp [← String.toList_inj, h]
    by_cases hc : c = '\n'
    · refine ⟨"", first :: rest, ?_, ?_⟩
      · rw [hsplit, htext, hc, printed_cons "" (first :: rest)]
        rfl
      · exact List.forall_mem_cons.2 ⟨by simp, hlines⟩
    · rw [List.forall_mem_cons] at hlines
      refine ⟨String.ofList [c] ++ first, rest, ?_, ?_⟩
      · rw [hsplit, htext, printed_cons, printed_cons]
        simp only [String.append_assoc]
      · refine List.forall_mem_cons.2 ⟨?_, hlines.2⟩
        exact newline_notMem_append.2 ⟨by simpa using Ne.symm hc, hlines.1⟩

/-! ## Versions -/

/-- A well-formed output: each line is a directive, and the one that sets a variable stamps a
semantic version. -/
def IsWellFormed (text : String) : Prop :=
  ∃ (directives : List Directive) (version : String),
    text = printed (directives.map Directive.line) ∧
    (directives.filter Directive.setsVariable).map Directive.value =
      ["CPP_EXAMPLE_JSON_VERSION=" ++ version] ∧
    version ≠ "" ∧ SemanticVersion.IsText version.toList

/-- A version that does no harm: a semantic version, perhaps with lines after it that are
directives and set no variable. -/
def IsHarmless (version : String) : Prop :=
  ∃ (first : String) (directives : List Directive),
    version ++ "\n" = printed (first :: directives.map Directive.line) ∧
    SemanticVersion.IsText first.toList ∧
    ∀ d ∈ directives, d.setsVariable = false

theorem newline_notMem_of_isText {version : String} (h : SemanticVersion.IsText version.toList) :
    '\n' ∉ version.toList := by
  obtain ⟨v, hv⟩ := h
  rw [← hv]
  exact v.newline_notMem_text

theorem ne_empty_of_isText {version : String} (h : SemanticVersion.IsText version.toList) :
    version ≠ "" := by
  obtain ⟨v, hv⟩ := h
  rintro rfl
  exact v.text_ne_nil hv

theorem isHarmless_of_isText {version : String} (h : SemanticVersion.IsText version.toList) :
    IsHarmless version :=
  ⟨version, [], by simp [printed], h, by simp⟩

/-- The first line of a version that does no harm is a semantic version. -/
theorem IsHarmless.isText_first_line {version : String} (h : IsHarmless version)
    (before after : List Char) (hversion : version.toList = before ++ '\n' :: after)
    (hbefore : '\n' ∉ before) : SemanticVersion.IsText before := by
  obtain ⟨first, directives, hlines, hfirst, -⟩ := h
  have hlist : first.toList ++ '\n' :: (printed (directives.map Directive.line)).toList =
      before ++ '\n' :: (after ++ ['\n']) := by
    simpa [printed_cons, ← String.toList_inj, hversion] using hlines.symm
  obtain ⟨rfl, -⟩ := (Text.append_cons_inj (newline_notMem_of_isText hfirst) hbefore).1 hlist
  exact hfirst

/-- The first line of a version moves into the stamp, and the others follow it. -/
theorem printed_stampLines {version first : String} {rest : List String}
    (hfirst : '\n' ∉ first.toList) (h : version ++ "\n" = printed (first :: rest)) :
    printed (stampLines version) =
      printed ((stamping first hfirst).line :: (rest ++ [rebuilding.line])) := by
  calc printed (stampLines version)
    _ = "cargo::rustc-env=CPP_EXAMPLE_JSON_VERSION=" ++ version ++ "\n" ++
          printed [rebuilding.line] := printed_cons _ _
    _ = "cargo::rustc-env=CPP_EXAMPLE_JSON_VERSION=" ++ (version ++ "\n") ++
          printed [rebuilding.line] := by simp only [String.append_assoc]
    _ = "cargo::rustc-env=CPP_EXAMPLE_JSON_VERSION=" ++ (first ++ "\n" ++ printed rest) ++
          printed [rebuilding.line] := by rw [h, printed_cons]
    _ = "cargo::rustc-env=CPP_EXAMPLE_JSON_VERSION=" ++ first ++ "\n" ++
          printed (rest ++ [rebuilding.line]) := by
      rw [printed_append]
      simp only [String.append_assoc]
    _ = _ := (printed_cons _ _).symm

theorem newline_notMem_lines (ds : List Directive) :
    ∀ line ∈ ds.map Directive.line, '\n' ∉ line.toList := by
  intro line hline
  obtain ⟨d, -, rfl⟩ := List.mem_map.1 hline
  exact d.newline_notMem_line

/-- Directives with these lines are those that were printed, with others for the lines of the
version. -/
theorem directives_eq {directives before : List Directive} {stamp last : Directive}
    {rest : List String}
    (h : directives.map Directive.line =
      before.map Directive.line ++ stamp.line :: (rest ++ [last.line])) :
    ∃ after, directives = before ++ stamp :: (after ++ [last]) ∧
      after.map Directive.line = rest := by
  obtain ⟨before', others, rfl, hbefore, hothers⟩ := List.map_eq_append_iff.1 h
  obtain ⟨stamp', others, rfl, hstamp, hothers⟩ := List.map_eq_cons_iff.1 hothers
  obtain ⟨after, lasts, rfl, hafter, hlasts⟩ := List.map_eq_append_iff.1 hothers
  have hbefore : before' = before := Directive.line_injective.list_map hbefore
  have hstamp : stamp' = stamp := Directive.line_injective hstamp
  have hlasts : lasts = [last] := Directive.line_injective.list_map hlasts
  exact ⟨after, by rw [hbefore, hstamp, hlasts], hafter⟩

/-- Around directives that set no variable the stamp is the one that does. -/
theorem filter_setsVariable {before after : List Directive} {version : String}
    {h : '\n' ∉ version.toList} (hbefore : ∀ d ∈ before, d.setsVariable = false) :
    (before ++ stamping version h :: (after ++ [rebuilding])).filter Directive.setsVariable =
      stamping version h :: after.filter Directive.setsVariable := by
  have hnone : before.filter Directive.setsVariable = [] := by simpa using hbefore
  have hstamp : (stamping version h).setsVariable = true := rfl
  have hlast : rebuilding.setsVariable = false := by decide
  rw [List.filter_append, hnone, List.nil_append, List.filter_cons_of_pos hstamp,
    List.filter_append, List.filter_cons_of_neg (by simp [hlast]), List.filter_nil,
    List.append_nil]

/-- After directives that set no variable a version makes the output well-formed exactly if it
does no harm. -/
theorem isWellFormed_printed_iff {before : List Directive} {version : String}
    (hbefore : ∀ d ∈ before, d.setsVariable = false) :
    IsWellFormed (printed (before.map Directive.line ++ stampLines version)) ↔
      IsHarmless version := by
  constructor
  · rintro ⟨directives, stamped, houtput, hstamp, -, hsemantic⟩
    obtain ⟨first, rest, hversion, hlines⟩ := exists_lines version
    obtain ⟨hfirst, hrest⟩ := List.forall_mem_cons.1 hlines
    have hprinted : ∀ line ∈ before.map Directive.line ++
        (stamping first hfirst).line :: (rest ++ [rebuilding.line]), '\n' ∉ line.toList := by
      simp only [List.forall_mem_append, List.forall_mem_cons]
      exact ⟨newline_notMem_lines before, Directive.newline_notMem_line _, hrest,
        Directive.newline_notMem_line _, by simp⟩
    -- the lines can be told from the output, so they are those of the directives
    have hall : directives.map Directive.line = before.map Directive.line ++
        (stamping first hfirst).line :: (rest ++ [rebuilding.line]) := by
      rw [← printed_inj (newline_notMem_lines directives) hprinted, ← houtput, printed_append,
        printed_append, printed_stampLines hfirst hversion]
    obtain ⟨after, rfl, rfl⟩ := directives_eq hall
    rw [filter_setsVariable hbefore, List.map_cons, List.cons.injEq, List.map_eq_nil_iff,
      List.filter_eq_nil_iff] at hstamp
    obtain ⟨hvalue, hafter⟩ := hstamp
    have hsame : first = stamped := (String.append_right_inj _).1 hvalue
    rw [← hsame] at hsemantic
    exact ⟨first, after, hversion, hsemantic, by simpa using hafter⟩
  · rintro ⟨first, after, hversion, hfirst, hafter⟩
    have hnewline := newline_notMem_of_isText hfirst
    have hnone : after.filter Directive.setsVariable = [] := by simpa using hafter
    refine ⟨before ++ stamping first hnewline :: (after ++ [rebuilding]), first, ?_, ?_,
      ne_empty_of_isText hfirst, hfirst⟩
    · rw [printed_append, printed_stampLines hnewline hversion, ← printed_append]
      simp
    · rw [filter_setsVariable hbefore, hnone]
      rfl

/-! ## Builds -/

theorem newline_notMem_segmentsOf {path segment : String} (hpath : '\n' ∉ path.toList)
    (h : segment ∈ segmentsOf path) : '\n' ∉ segment.toList := by
  unfold segmentsOf FileTree.segments at h
  split at h
  · cases h
  · obtain ⟨part, hpart, rfl⟩ := List.mem_map.1 h
    rw [String.toList_ofList]
    exact fun hmem => hpath (Text.mem_of_mem_splitOn hpart hmem)

theorem newline_notMem_join {directory name : String} (hdirectory : '\n' ∉ directory.toList)
    (hname : '\n' ∉ name.toList) : '\n' ∉ (FileTree.join directory name).toList := by
  unfold FileTree.join
  split
  · exact newline_notMem_append.2 ⟨hdirectory, hname⟩
  · rw [newline_notMem_append, newline_notMem_append]
    exact ⟨⟨hdirectory, by decide⟩, hname⟩

variable {site : BuildSite}

theorem newline_notMem_pathOf {segments : List String} (hroot : '\n' ∉ site.root.toList)
    (hsegments : ∀ segment ∈ segments, '\n' ∉ segment.toList) :
    '\n' ∉ (site.pathOf segments).toList := by
  unfold pathOf
  split
  · exact hroot
  · rw [newline_notMem_append, newline_notMem_append, String.toList_intercalate]
    refine ⟨⟨hroot, by decide⟩, ?_⟩
    intro hmem
    rcases Text.mem_intercalate_iff.1 hmem with ⟨part, hpart, hc⟩ | ⟨hslash, -⟩
    · obtain ⟨segment, hsegment, rfl⟩ := List.mem_map.1 hpart
      exact hsegments segment hsegment hc
    · exact absurd hslash (by decide)

/-- The path of a lock file has a line feed only if that of the root or of the manifest has. -/
theorem newline_notMem_lockFile {file : String × List UInt8}
    (hroot : '\n' ∉ site.root.toList)
    (hmanifest : ∀ manifest ∈ site.manifest, '\n' ∉ manifest.toList)
    (h : site.lockFile? = some file) : '\n' ∉ file.1.toList := by
  have hname : '\n' ∉ lockName.toList := by decide
  cases hsite : site.manifest with
  | none =>
    unfold lockFile? candidates at h
    rw [hsite, List.findSome?_singleton, Option.map_eq_some_iff] at h
    obtain ⟨content, -, rfl⟩ := h
    exact newline_notMem_join (by decide) hname
  | some manifest =>
    rw [lockFile?_eq_findSome? hsite] at h
    obtain ⟨directory, hdirectory, hfile⟩ := List.exists_of_findSome?_eq_some h
    obtain ⟨content, -, rfl⟩ := Option.map_eq_some_iff.1 hfile
    have hstart := (isWayUp_ancestors (segmentsOf manifest)).isPrefix directory hdirectory
    refine newline_notMem_join (newline_notMem_pathOf hroot ?_) hname
    intro segment hsegment
    exact newline_notMem_segmentsOf (hmanifest manifest hsite) (hstart.subset hsegment)

/-- Before the stamp a build prints directives that set no variable. -/
theorem exists_output_eq (hroot : '\n' ∉ site.root.toList)
    (hmanifest : ∀ manifest ∈ site.manifest, '\n' ∉ manifest.toList) :
    ∃ before : List Directive, (∀ d ∈ before, d.setsVariable = false) ∧
      site.output = printed (before.map Directive.line ++
        stampLines (site.version?.getD unresolvedVersion)) := by
  let watch := (site.lockFile?.map fun file => Instruction.rerunIfChanged file.1).toList
  let warn := if site.version?.isNone then [Instruction.warnUnresolved] else []
  have hmem : ∀ i ∈ watch ++ warn, i = .warnUnresolved ∨
      ∃ file, site.lockFile? = some file ∧ i = .rerunIfChanged file.1 := by
    intro i hi
    rcases List.mem_append.1 hi with hwatch | hwarn
    · obtain ⟨file, hfile, rfl⟩ := Option.map_eq_some_iff.1 (Option.mem_toList.1 hwatch)
      exact .inr ⟨file, hfile, rfl⟩
    · have hwarn : site.version? = none ∧ i = .warnUnresolved := by simpa [warn] using hwarn
      exact .inl hwarn.2
  have hlines : ∀ i ∈ watch ++ warn, '\n' ∉ i.value.toList := by
    intro i hi
    rcases hmem i hi with rfl | ⟨file, hfile, rfl⟩
    · decide
    · exact newline_notMem_lockFile hroot hmanifest hfile
  have hstamp : ∀ version, Instruction.stamp version ∉ watch ++ warn := by
    intro version hi
    rcases hmem _ hi with h | ⟨file, -, h⟩ <;> cases h
  obtain ⟨before, hbefore, hvariables⟩ := exists_directives hlines hstamp
  refine ⟨before, hvariables, ?_⟩
  rw [hbefore, output_eq_printed, instructions, List.map_append]
  rfl

theorem isHarmless_unresolvedVersion : IsHarmless unresolvedVersion :=
  isHarmless_of_isText ⟨⟨1, 0, 0, [], ["unresolved".toList], by decide⟩, by decide⟩

/-- What a build stamps decides whether its output is well-formed. -/
theorem isWellFormed_output_iff (hroot : '\n' ∉ site.root.toList)
    (hmanifest : ∀ manifest ∈ site.manifest, '\n' ∉ manifest.toList) :
    IsWellFormed site.output ↔ IsHarmless (site.version?.getD unresolvedVersion) := by
  obtain ⟨before, hbefore, houtput⟩ := exists_output_eq hroot hmanifest
  rw [houtput]
  exact isWellFormed_printed_iff hbefore

/-- The lock file that a build takes tells it a version. -/
def Tells (site : BuildSite) (version : String) : Prop :=
  ∃ path content, site.lockFile? = some (path, content) ∧
    LockFile.Tells "serde_json" content version

theorem tells_iff {version : String} : site.Tells version ↔ site.version? = some version := by
  unfold Tells BuildSite.version?
  simp only [LockFile.tells_iff, Option.bind_eq_some_iff, Prod.exists]
  rfl

/-- Where no path has a line feed, the output of a build is well-formed exactly if its lock file
tells no version or one that does no harm, as each semantic version is. -/
theorem output_isWellFormed_iff (site : BuildSite) (hroot : '\n' ∉ site.root.toList)
    (hmanifest : ∀ manifest ∈ site.manifest, '\n' ∉ manifest.toList) :
    (IsWellFormed site.output ↔ ∀ version, site.Tells version → IsHarmless version) ∧
      ((∀ version, site.Tells version → SemanticVersion.IsText version.toList) →
        IsWellFormed site.output) := by
  have houtput : IsWellFormed site.output ↔ ∀ version, site.Tells version → IsHarmless version := by
    rw [isWellFormed_output_iff hroot hmanifest]
    simp only [tells_iff]
    cases site.version? with
    | none => simp [isHarmless_unresolvedVersion]
    | some version => simp
  refine ⟨houtput, ?_⟩
  intro hsemantic
  exact houtput.2 fun version htells => isHarmless_of_isText (hsemantic version htells)

/-- A lock file that lists one package: the JSON library, with its version as a TOML string. -/
def lockFileWith (version : String) : List UInt8 :=
  Text.utf8 ("[[package]]\nname = \"serde_json\"\nversion = ".toList ++ version.toList ++ ['\n'])

/-- A build whose lock file stands above its manifest directory. -/
def siteWith (version : String) : BuildSite :=
  ⟨⟨[(["Cargo.lock"], .file (lockFileWith version))]⟩, "/srv", some "app", ""⟩

theorem version?_siteWith (version : String) :
    (siteWith version).version? = LockFile.version? "serde_json" (lockFileWith version) := by
  have hway : ancestors (segmentsOf "app") = [["app"]] ++ [] :: [] := by decide
  have hbefore : ∀ directory ∈ [["app"]], lockIn? (siteWith version).tree directory = none := by
    intro directory h
    rw [List.mem_singleton.1 h]
    rfl
  have hnearest : lockIn? (siteWith version).tree [] = some (lockFileWith version) := rfl
  rw [BuildSite.version?, lockFile?_eq_nearest rfl hway hbefore hnearest]
  rfl

/-- A build that stamps the version of a release. -/
theorem output_isWellFormed_release :
    '\n' ∉ (siteWith "\"1.0.154\"").root.toList ∧
      (∀ manifest ∈ (siteWith "\"1.0.154\"").manifest, '\n' ∉ manifest.toList) ∧
      (siteWith "\"1.0.154\"").Tells "1.0.154" ∧
      IsWellFormed (siteWith "\"1.0.154\"").output := by
  have hroot : '\n' ∉ (siteWith "\"1.0.154\"").root.toList := by decide
  have hmanifest : ∀ manifest ∈ (siteWith "\"1.0.154\"").manifest, '\n' ∉ manifest.toList := by
    decide
  have hversion : (siteWith "\"1.0.154\"").version? = some "1.0.154" := by
    rw [version?_siteWith, lockFileWith, LockFile.version?_utf8]
    decide +kernel
  refine ⟨hroot, hmanifest, tells_iff.2 hversion, ?_⟩
  apply (output_isWellFormed_iff _ hroot hmanifest).2
  intro version htells
  rw [tells_iff, hversion] at htells
  rw [← Option.some.inj htells]
  exact ⟨⟨1, 0, 154, [], [], by decide⟩, by decide⟩

/-- The version of a lock file can forge directives: here it leaves the stamp empty, sets
another variable and ends in a line that is no directive. -/
theorem not_forall_isWellFormed :
    ¬∀ site : BuildSite,
      (∀ node ∈ site.tree.nodes, ∀ name ∈ node.1, '\n' ∉ name.toList) →
      '\n' ∉ site.root.toList → (∀ manifest ∈ site.manifest, '\n' ∉ manifest.toList) →
      IsWellFormed site.output := by
  intro hclaim
  let site := siteWith "\"\\ncargo::rustc-env=PATH=.\\nstray\""
  have htree : ∀ node ∈ site.tree.nodes, ∀ name ∈ node.1, '\n' ∉ name.toList := by
    decide
  have hroot : '\n' ∉ site.root.toList := by decide
  have hmanifest : ∀ manifest ∈ site.manifest, '\n' ∉ manifest.toList := by decide
  have hversion : site.version? = some "\ncargo::rustc-env=PATH=.\nstray" := by
    rw [version?_siteWith, lockFileWith, LockFile.version?_utf8]
    decide +kernel
  have hharmless := (isWellFormed_output_iff hroot hmanifest).1 (hclaim site htree hroot hmanifest)
  rw [hversion, Option.getD_some] at hharmless
  obtain ⟨v, hv⟩ := hharmless.isText_first_line [] _ rfl (by simp)
  exact v.text_ne_nil hv

end LinkReport.BuildSite
