import LinkReport.Proofs.LockFile.Writing
import LinkReport.Proofs.SemanticVersion
import LinkReport.Proofs.VersionStamp.Nearest
import LinkReport.Report

/-!
# Builds with a written lock file

What a build prints when the lock file in its manifest directory is one that the build tool
has written, and how that goes together with the package that the crate depends on. The
packages are sorted by name and version, so of several versions of one package the build
stamps the least, whichever the crate depends on.
-/

namespace LinkReport

namespace LockFile

/-- A package may stand before another: its name comes first, or they share a name and its
version is not the greater one. -/
def Package.Precedes (p q : Package) : Prop :=
  p.name.toString < q.name.toString ∨
    p.name.toString = q.name.toString ∧ ∃ v w : SemanticVersion,
      v.text = p.version.chars ∧ w.text = q.version.chars ∧ v.compare w ≠ .gt

/-- The packages stand in the order in which the build tool writes them. -/
def IsSorted (packages : List Package) : Prop :=
  packages.Pairwise Package.Precedes

/-- The packages with a name. -/
def named (name : String) (packages : List Package) : List Package :=
  packages.filter fun p => p.name.toString == name

/-- A crate of this name depends on a package: it gives the name alone where no other package
has it, and the version with it where several have. -/
inductive DependsOn (packages : List Package) (crate : String) (p : Package) : Prop where
  | alone {c : Package} (hc : c ∈ packages) (hcrate : c.name.toString = crate)
      (hnamed : named p.name.toString packages = [p])
      (hdependency : ∃ d ∈ c.dependencies, d.toString = p.name.toString)
  | amongSeveral {c : Package} (hc : c ∈ packages) (hcrate : c.name.toString = crate)
      (hp : p ∈ packages) (hnamed : 1 < (named p.name.toString packages).length)
      (hdependency : ∃ d ∈ c.dependencies,
        d.toString = p.name.toString ++ " " ++ p.version.toString)

variable {packages : List Package} {p : Package}

theorem mem_named_iff {name : String} :
    p ∈ named name packages ↔ p ∈ packages ∧ p.name.toString = name := by
  unfold named
  rw [List.mem_filter, beq_iff_eq]

/-- What a crate depends on is listed. -/
theorem DependsOn.mem {crate : String} (h : DependsOn packages crate p) : p ∈ packages := by
  cases h with
  | alone hc hcrate hnamed hdependency =>
    have hself : p ∈ named p.name.toString packages := by
      rw [hnamed]
      exact List.mem_singleton_self p
    exact (mem_named_iff.1 hself).1
  | amongSeveral hc hcrate hp hnamed hdependency => exact hp

/-- A sorted list has the packages of one name in order, too. -/
theorem IsSorted.named (h : IsSorted packages) (name : String) :
    IsSorted (named name packages) :=
  h.filter _

end LockFile

namespace BuildSite

open LockFile (Package)

/-- The stamp can be read off what a build prints. -/
theorem printed_stampLines_inj {line version other : String} :
    printed (line :: stampLines version) = printed (line :: stampLines other) ↔
      version = other := by
  constructor
  · intro h
    simp only [stampLines, printed_cons, String.append_right_inj, String.append_left_inj] at h
    exact h
  · rintro rfl
    rfl

variable {site : BuildSite} {manifest : String} {first second : Toml.Remark}
  {packages : List Package}

/-- A build with a written lock file looks the package up in the list. -/
theorem output_of_find? (h : site.manifest = some manifest)
    (hlock : lockIn? site.tree (segmentsOf manifest) =
      some (Text.utf8 (LockFile.write first second packages))) :
    site.output = printed (site.watchLine (segmentsOf manifest) ::
      match packages.find? fun p => p.name.toString == "serde_json" with
      | some p => stampLines p.version.toString
      | none => unresolvedLines) := by
  have hfile := lockFile?_eq_own h hlock
  have hversion := LockFile.version?_write package first second packages
  unfold package at hversion
  cases hfind : packages.find? fun p => p.name.toString == "serde_json" with
  | none =>
    rw [hfind] at hversion
    exact output_of_silence hfile hversion
  | some p =>
    rw [hfind] at hversion
    exact output_of_version hfile hversion

/-- A build with a written lock file in its manifest directory stamps the version of the
first package that has exactly the name, and warns if there is none. -/
theorem output_of_written_lockFile {tree : FileTree} {root manifest working : String}
    {first second : Toml.Remark} {packages : List Package}
    (hlock : lockIn? tree (segmentsOf manifest) =
      some (Text.utf8 (LockFile.write first second packages))) :
    let site : BuildSite := ⟨tree, root, some manifest, working⟩
    (∀ before p after, packages = before ++ p :: after →
        (∀ q ∈ before, q.name.toString ≠ "serde_json") → p.name.toString = "serde_json" →
          site.output = printed
            (site.watchLine (segmentsOf manifest) :: stampLines p.version.toString)) ∧
      ((∀ p ∈ packages, p.name.toString ≠ "serde_json") →
        site.output = printed (site.watchLine (segmentsOf manifest) :: unresolvedLines)) := by
  intro site
  have houtput : site.output = _ := output_of_find? rfl hlock
  constructor
  · intro before p after hsplit hbefore hname
    have hfind : (packages.find? fun p => p.name.toString == "serde_json") = some p := by
      rw [List.find?_eq_some_iff_append]
      exact ⟨by simpa using hname, before, after, hsplit, by simpa using hbefore⟩
    rw [houtput, hfind]
  · intro hnames
    have hfind : (packages.find? fun p => p.name.toString == "serde_json") = none := by
      rw [List.find?_eq_none]
      simpa using hnames
    rw [houtput, hfind]

/-- The first comment in a lock file. -/
def generated : Toml.Remark :=
  ⟨" This file is automatically @generated by Cargo.".toList, List.all_eq_true.1 rfl⟩

/-- The second comment in a lock file. -/
def notForEditing : Toml.Remark :=
  ⟨" It is not intended for manual editing.".toList, List.all_eq_true.1 rfl⟩

/-- Names that only end in the one that is looked for are passed over. -/
theorem output_of_written_lockFile_likeNamed :
    let other : Package :=
      ⟨.ofPrintable "my_serde_json" (by decide), .ofPrintable "9.9.9" (by decide), none, none, []⟩
    let json : Package :=
      ⟨.ofPrintable "serde_json" (by decide), .ofPrintable "1.0.154" (by decide),
        some (.ofPrintable "[registry] # = 'a'" (by decide)), none,
        [.ofPrintable "itoa" (by decide), .ofPrintable "ryu" (by decide)]⟩
    let content := Text.utf8 (LockFile.write generated notForEditing [other, json])
    let tree : FileTree := ⟨[(["app", "Cargo.lock"], .file content)]⟩
    lockIn? tree (segmentsOf "app") = some content ∧
      BuildSite.output ⟨tree, "/srv", some "app", ""⟩ = printed
        ["cargo::rerun-if-changed=/srv/app/Cargo.lock",
          "cargo::rustc-env=CPP_EXAMPLE_JSON_VERSION=1.0.154",
          "cargo::rerun-if-changed=build.rs"] := by
  intro other json content tree
  have hlock : lockIn? tree (segmentsOf "app") = some content := rfl
  have hother : ∀ q ∈ [other], q.name.toString ≠ "serde_json" := by
    intro q hq
    rw [List.mem_singleton.1 hq]
    decide
  have houtput : BuildSite.output ⟨tree, "/srv", some "app", ""⟩ = _ :=
    (output_of_written_lockFile hlock).1 [other] json [] rfl hother rfl
  have hpath : pathOf ⟨tree, "/srv", some "app", ""⟩ (segmentsOf "app") = "/srv/app" := rfl
  have hwatch : watchLine ⟨tree, "/srv", some "app", ""⟩ (segmentsOf "app") =
      "cargo::rerun-if-changed=/srv/app/Cargo.lock" := by
    unfold watchLine
    rw [hpath]
    decide
  have hstamp : stampLines json.version.toString =
      ["cargo::rustc-env=CPP_EXAMPLE_JSON_VERSION=1.0.154",
        "cargo::rerun-if-changed=build.rs"] := rfl
  rw [houtput, hwatch, hstamp]
  exact ⟨hlock, rfl⟩

/-! ## The library that a build makes -/

/-- The answers of the library that a build makes: the version is the one that it stamps. -/
def report (site : BuildSite) : Report where
  string := magicString
  jsonVersion := site.version?.getD unresolvedVersion

theorem exists_output_eq_report (site : BuildSite) : ∃ before : List Instruction,
    site.output = printed (before.map Instruction.line ++ stampLines site.report.jsonVersion) := by
  rw [output_eq_printed, instructions, List.map_append]
  exact ⟨_, rfl⟩

/-- A build makes the library with the linked version exactly if its lock file lists the package
in that version first. -/
theorem report_eq_current_iff (h : site.manifest = some manifest)
    (hlock : lockIn? site.tree (segmentsOf manifest) =
      some (Text.utf8 (LockFile.write first second packages))) :
    site.report = .current ↔
      ∃ p, packages.find? (fun p => p.name.toString == "serde_json") = some p ∧
        p.version.toString = linkedJsonVersion := by
  have hversion : site.version? =
      (packages.find? fun p => p.name.toString == "serde_json").map (·.version.toString) := by
    rw [BuildSite.version?, lockFile?_eq_own h hlock, Option.bind_some]
    exact LockFile.version?_write package first second packages
  have hlinked : site.report = .current ↔
      site.version?.getD unresolvedVersion = linkedJsonVersion := by
    rw [report, Report.current, Report.mk.injEq, eq_self_iff_true, true_and]
  rw [hlinked, hversion]
  cases packages.find? fun p => p.name.toString == "serde_json" with
  | none => exact iff_of_false (by decide) (by simp)
  | some p => simp

/-- A build with a lock file that lists the linked version. -/
example :
    let content := "[[package]]\nname = 'serde_json'\nversion = '1.0.154'\n"
    let tree : FileTree := .ofPaths [("Cargo.lock", .file (Text.utf8 content.toList))]
    report ⟨tree, "/srv", some "", ""⟩ = .current := by
  decide +kernel

/-! ## The package that a crate depends on -/

/-- Of the versions of a package that a sorted lock file lists, a build stamps the least. It
is that of the package that the crate depends on exactly if no lesser one is listed, as
where there is only one. -/
theorem output_of_dependency {tree : FileTree} {root manifest working : String}
    {first second : Toml.Remark} {packages : List Package} {p : Package}
    (hsorted : LockFile.IsSorted packages) (hname : p.name.toString = "serde_json")
    (hdepends : LockFile.DependsOn packages "cpp-example" p)
    (hlock : lockIn? tree (segmentsOf manifest) =
      some (Text.utf8 (LockFile.write first second packages))) :
    let site : BuildSite := ⟨tree, root, some manifest, working⟩
    ∃ least others, LockFile.named "serde_json" packages = least :: others ∧
      (∀ q ∈ others, least.Precedes q) ∧
      site.output = printed
        (site.watchLine (segmentsOf manifest) :: stampLines least.version.toString) ∧
      (site.output = printed
          (site.watchLine (segmentsOf manifest) :: stampLines p.version.toString) ↔
        least.version.toString = p.version.toString) ∧
      (others = [] → least = p) := by
  intro site
  have houtput : site.output = _ := output_of_find? rfl hlock
  have hlisted : p ∈ LockFile.named "serde_json" packages :=
    LockFile.mem_named_iff.2 ⟨hdepends.mem, hname⟩
  have hordered : LockFile.IsSorted (LockFile.named "serde_json" packages) :=
    hsorted.named "serde_json"
  cases hnamed : LockFile.named "serde_json" packages with
  | nil =>
    rw [hnamed] at hlisted
    exact absurd hlisted List.not_mem_nil
  | cons least others =>
    have hfind : (packages.find? fun p => p.name.toString == "serde_json") = some least := by
      rw [← List.head?_filter]
      show (LockFile.named "serde_json" packages).head? = some least
      rw [hnamed, List.head?_cons]
    rw [hfind] at houtput
    rw [hnamed] at hlisted hordered
    refine ⟨least, others, rfl, (List.pairwise_cons.1 hordered).1, houtput, ?_, ?_⟩
    · rw [houtput]
      exact printed_stampLines_inj
    · rintro rfl
      exact (List.mem_singleton.1 hlisted).symm

/-- The package in a version of long ago. -/
def oldJson : Package :=
  ⟨.ofPrintable "serde_json" (by decide), .ofPrintable "0.9.10" (by decide), none, none, []⟩

/-- The package in the version that the crate asks for. -/
def newJson : Package :=
  ⟨.ofPrintable "serde_json" (by decide), .ofPrintable "1.0.154" (by decide), none, none, []⟩

/-- A crate that depends on one version of the package, and on a crate that depends on
another. -/
def twoVersions : List Package :=
  [⟨.ofPrintable "cpp-example" (by decide), .ofPrintable "0.1.0" (by decide), none, none,
      [.ofPrintable "legacy" (by decide), .ofPrintable "serde_json 1.0.154" (by decide)]⟩,
    ⟨.ofPrintable "legacy" (by decide), .ofPrintable "1.0.0" (by decide), none, none,
      [.ofPrintable "serde_json 0.9.10" (by decide)]⟩,
    oldJson, newJson]

theorem isSorted_twoVersions : LockFile.IsSorted twoVersions := by
  have hversions : oldJson.Precedes newJson :=
    .inr ⟨rfl, ⟨0, 9, 10, [], [], by decide⟩, ⟨1, 0, 154, [], [], by decide⟩,
      by decide, by decide, by decide⟩
  unfold LockFile.IsSorted twoVersions
  simp only [List.pairwise_cons, List.mem_cons, List.not_mem_nil, or_false, forall_eq_or_imp,
    forall_eq, false_imp_iff, implies_true, List.Pairwise.nil, and_true]
  exact ⟨⟨.inl (by decide), .inl (by decide), .inl (by decide)⟩,
    ⟨.inl (by decide), .inl (by decide)⟩, hversions⟩

theorem dependsOn_newJson : LockFile.DependsOn twoVersions "cpp-example" newJson :=
  .amongSeveral (List.mem_cons_self ..) rfl (by simp [twoVersions]) (by decide)
    ⟨.ofPrintable "serde_json 1.0.154" (by decide), by simp, rfl⟩

/-- A lock file with both versions. -/
def twoVersionsFile : List UInt8 :=
  Text.utf8 (LockFile.write generated notForEditing twoVersions)

/-- A tree with that lock file at its root. -/
def twoVersionsTree : FileTree :=
  ⟨[(["Cargo.lock"], .file twoVersionsFile)]⟩

theorem lockIn?_twoVersionsTree :
    lockIn? twoVersionsTree (segmentsOf "") = some twoVersionsFile := rfl

/-- Of two versions the older one is stamped, though the crate depends on the other. -/
theorem output_of_dependency_twoVersions :
    LockFile.IsSorted twoVersions ∧ newJson.name.toString = "serde_json" ∧
      LockFile.DependsOn twoVersions "cpp-example" newJson ∧
      lockIn? twoVersionsTree (segmentsOf "") = some twoVersionsFile ∧
      BuildSite.output ⟨twoVersionsTree, "/srv", some "", ""⟩ = printed
        ["cargo::rerun-if-changed=/srv/Cargo.lock",
          "cargo::rustc-env=CPP_EXAMPLE_JSON_VERSION=0.9.10",
          "cargo::rerun-if-changed=build.rs"] := by
  refine ⟨isSorted_twoVersions, rfl, dependsOn_newJson, rfl, ?_⟩
  obtain ⟨least, others, hnamed, -, houtput, -⟩ :=
    @output_of_dependency twoVersionsTree "/srv" "" "" generated notForEditing twoVersions newJson
      isSorted_twoVersions rfl dependsOn_newJson lockIn?_twoVersionsTree
  have hleast : oldJson = least := (List.cons.inj hnamed).1
  rw [houtput, ← hleast]
  rfl

/-- Where several versions are listed, a build need not stamp that of the package that the
crate depends on. -/
theorem not_output_of_dependency :
    ¬∀ (tree : FileTree) (root manifest working : String) (first second : Toml.Remark)
      (packages : List Package) (p : Package), LockFile.IsSorted packages →
      p.name.toString = "serde_json" → LockFile.DependsOn packages "cpp-example" p →
      lockIn? tree (segmentsOf manifest) =
        some (Text.utf8 (LockFile.write first second packages)) →
      let site : BuildSite := ⟨tree, root, some manifest, working⟩
      site.output = printed
        (site.watchLine (segmentsOf manifest) :: stampLines p.version.toString) := by
  intro hclaim
  have hnew := hclaim twoVersionsTree "/srv" "" "" generated notForEditing twoVersions newJson
    isSorted_twoVersions rfl dependsOn_newJson lockIn?_twoVersionsTree
  have hold : BuildSite.output ⟨twoVersionsTree, "/srv", some "", ""⟩ = _ :=
    output_of_find? rfl lockIn?_twoVersionsTree
  have hsame := printed_stampLines_inj.1 (hold.symm.trans hnew)
  exact absurd hsame (by decide)

end BuildSite
end LinkReport
