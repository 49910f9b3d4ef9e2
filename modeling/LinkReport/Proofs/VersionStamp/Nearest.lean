import LinkReport.Proofs.FileTree
import LinkReport.Proofs.LockFile.Telling
import LinkReport.VersionStamp

/-!
# The nearest lock file

A build looks at the directories on the way up from its manifest, takes the first in which
the name of a lock file leads to a file, and looks no farther, whatever that file tells.

* `output_of_version` and `output_of_silence` are what a build prints for the file it takes;
* `output_decided_by_nearest` puts them together with the search for that file.
-/

namespace LinkReport.BuildSite

/-- The text of lines, each with a line feed at its end. -/
def printed (lines : List String) : String :=
  String.join (lines.map (· ++ "\n"))

/-- The lines of a build that found no version. -/
def unresolvedLines : List String :=
  ["cargo::warning=no locked serde_json version found, reporting 1.0.0+unresolved",
    "cargo::rustc-env=CPP_EXAMPLE_JSON_VERSION=1.0.0+unresolved",
    "cargo::rerun-if-changed=build.rs"]

/-- The lines of a build that found a version. -/
def stampLines (version : String) : List String :=
  ["cargo::rustc-env=CPP_EXAMPLE_JSON_VERSION=" ++ version, "cargo::rerun-if-changed=build.rs"]

/-- The line of a build that watches the lock file in a directory. -/
def watchLine (site : BuildSite) (directory : List String) : String :=
  "cargo::rerun-if-changed=" ++ FileTree.join (site.pathOf directory) "Cargo.lock"

/-- The content of the lock file in a directory of the tree, if there is one. -/
def lockIn? (tree : FileTree) (directory : List String) : Option (List UInt8) :=
  tree.file? [] (directory ++ [lockName])

variable {site : BuildSite} {manifest : String}

theorem printed_cons (line : String) (lines : List String) :
    printed (line :: lines) = line ++ "\n" ++ printed lines := by
  unfold printed
  simp

theorem output_eq_printed (site : BuildSite) :
    site.output = printed (site.instructions.map Instruction.line) := by
  unfold output printed
  rw [List.map_map]
  rfl

/-! ## The file that a build takes -/

theorem lockFile?_eq_findSome? (h : site.manifest = some manifest) :
    site.lockFile? = (ancestors (segmentsOf manifest)).findSome? fun directory =>
      (lockIn? site.tree directory).map fun content =>
        (FileTree.join (site.pathOf directory) lockName, content) := by
  unfold lockFile? candidates
  rw [h]
  simp only [List.findSome?_map]
  rfl

theorem lockFile?_eq_none (h : site.manifest = some manifest)
    (hnone : ∀ directory ∈ ancestors (segmentsOf manifest),
      lockIn? site.tree directory = none) :
    site.lockFile? = none := by
  rw [lockFile?_eq_findSome? h, List.findSome?_eq_none_iff]
  intro directory hmem
  rw [hnone directory hmem]
  rfl

theorem lockFile?_eq_nearest (h : site.manifest = some manifest)
    {before after : List (List String)} {nearest : List String} {content : List UInt8}
    (hway : ancestors (segmentsOf manifest) = before ++ nearest :: after)
    (hbefore : ∀ directory ∈ before, lockIn? site.tree directory = none)
    (hnearest : lockIn? site.tree nearest = some content) :
    site.lockFile? = some (FileTree.join (site.pathOf nearest) lockName, content) := by
  rw [lockFile?_eq_findSome? h, List.findSome?_eq_some_iff]
  refine ⟨before, nearest, after, hway, ?_, ?_⟩
  · rw [hnearest]
    rfl
  · intro directory hmem
    rw [hbefore directory hmem]
    rfl

theorem lockFile?_eq_own (h : site.manifest = some manifest) {content : List UInt8}
    (hlock : lockIn? site.tree (segmentsOf manifest) = some content) :
    site.lockFile? =
      some (FileTree.join (site.pathOf (segmentsOf manifest)) lockName, content) := by
  have hhead := (isWayUp_ancestors (segmentsOf manifest)).head_eq
  obtain ⟨after, hway⟩ := List.head?_eq_some_iff.1 hhead
  have hfirst : ancestors (segmentsOf manifest) = [] ++ segmentsOf manifest :: after := hway
  exact lockFile?_eq_nearest h hfirst (by simp) hlock

/-! ## What a build prints -/

/-- Without a lock file a build warns. -/
theorem output_of_no_lockFile (h : site.lockFile? = none) :
    site.output = printed unresolvedLines := by
  rw [output_eq_printed]
  unfold instructions version?
  rw [h]
  rfl

/-- A build stamps the version that its lock file tells, without a warning. -/
theorem output_of_version {directory : List String} {content : List UInt8} {version : String}
    (h : site.lockFile? = some (FileTree.join (site.pathOf directory) lockName, content))
    (hversion : LockFile.version? package content = some version) :
    site.output = printed (site.watchLine directory :: stampLines version) := by
  rw [output_eq_printed]
  unfold instructions BuildSite.version?
  rw [h, Option.bind_some, hversion]
  rfl

/-- With a lock file that keeps silent a build warns as if there was none. -/
theorem output_of_silence {directory : List String} {content : List UInt8}
    (h : site.lockFile? = some (FileTree.join (site.pathOf directory) lockName, content))
    (hversion : LockFile.version? package content = none) :
    site.output = printed (site.watchLine directory :: unresolvedLines) := by
  rw [output_eq_printed]
  unfold instructions BuildSite.version?
  rw [h, Option.bind_some, hversion]
  rfl

/-- Builds that take the same lock file print the same. -/
theorem output_congr {other : BuildSite} (h : other.lockFile? = site.lockFile?) :
    other.output = site.output := by
  unfold output instructions BuildSite.version?
  rw [h]

/-- A build takes the first lock file on the way up from its manifest, prints what that file
alone decides, and prints the same in every tree with the same file there and none before
it. Without a lock file on the way it warns. -/
theorem output_decided_by_nearest (tree : FileTree) (root manifest working : String) :
    let site : BuildSite := ⟨tree, root, some manifest, working⟩
    let directories := ancestors (segmentsOf manifest)
    FileTree.IsWayUp (segmentsOf manifest) directories ∧
      (((∀ directory ∈ directories, lockIn? tree directory = none) ∧
          site.output = printed unresolvedLines) ∨
        ∃ before nearest after content,
          directories = before ++ nearest :: after ∧
          (∀ directory ∈ before, lockIn? tree directory = none) ∧
          lockIn? tree nearest = some content ∧
          (∀ version, LockFile.Tells "serde_json" content version →
            site.output = printed (site.watchLine nearest :: stampLines version)) ∧
          (LockFile.IsSilent "serde_json" content →
            site.output = printed (site.watchLine nearest :: unresolvedLines)) ∧
          (LockFile.IsSilent "serde_json" content ↔
            ¬∃ version, LockFile.Tells "serde_json" content version) ∧
          ∀ other : FileTree, (∀ directory ∈ before, lockIn? other directory = none) →
            lockIn? other nearest = some content →
              BuildSite.output ⟨other, root, some manifest, working⟩ = site.output) := by
  intro site directories
  refine ⟨isWayUp_ancestors _, ?_⟩
  cases hfirst : directories.findSome? (lockIn? tree) with
  | none =>
    have hnone := List.findSome?_eq_none_iff.1 hfirst
    exact .inl ⟨hnone, output_of_no_lockFile (lockFile?_eq_none rfl hnone)⟩
  | some content =>
    obtain ⟨before, nearest, after, hway, hnearest, hbefore⟩ :=
      List.findSome?_eq_some_iff.1 hfirst
    have hlock : site.lockFile? = some (FileTree.join (site.pathOf nearest) lockName, content) :=
      lockFile?_eq_nearest rfl hway hbefore hnearest
    refine .inr ⟨before, nearest, after, content, hway, hbefore, hnearest, ?_, ?_, ?_, ?_⟩
    · intro version htells
      exact output_of_version hlock (LockFile.version?_of_tells htells)
    · intro hsilent
      exact output_of_silence hlock (LockFile.version?_of_isSilent hsilent)
    · exact LockFile.isSilent_iff
    · intro other hother hsame
      apply output_congr
      rw [hlock]
      exact lockFile?_eq_nearest rfl hway hother hsame

/-- A build below a lock file with a version, and above it a lock file that is no TOML. -/
example :
    let content := "[[package]]\nname = 'serde_json'\nversion = \"1.0.154\" # locked\n"
    let tree : FileTree := .ofPaths [("Cargo.lock", .file (Text.utf8 "[[package]\n".toList)),
      ("app/Cargo.lock", .file (Text.utf8 content.toList))]
    BuildSite.output ⟨tree, "/srv", some "app/lib", ""⟩ = printed
        ["cargo::rerun-if-changed=/srv/app/Cargo.lock",
          "cargo::rustc-env=CPP_EXAMPLE_JSON_VERSION=1.0.154",
          "cargo::rerun-if-changed=build.rs"] ∧
      BuildSite.output ⟨tree, "/srv", some "", ""⟩ = printed
        ["cargo::rerun-if-changed=/srv/Cargo.lock",
          "cargo::warning=no locked serde_json version found, reporting 1.0.0+unresolved",
          "cargo::rustc-env=CPP_EXAMPLE_JSON_VERSION=1.0.0+unresolved",
          "cargo::rerun-if-changed=build.rs"] := by
  decide +kernel

end LinkReport.BuildSite
