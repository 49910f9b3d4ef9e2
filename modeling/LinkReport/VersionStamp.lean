import LinkReport.FileTree
import LinkReport.LockFile

/-!
# The version stamp of a build

A build stamps the library with the version of the JSON library that its lock file lists.
The lock file is the nearest one at or above the manifest directory, and no other is
looked at, even if that one does not tell the version. The outcome is a list of
instructions for the build tool.
-/

namespace LinkReport

/-- Where a build looks for its lock file. -/
structure BuildSite where
  tree : FileTree
  /-- The path of the root of the tree. -/
  root : String
  /-- The path of the manifest directory below the root, if it is known. -/
  manifest : Option String
  /-- The path of the working directory below the root. -/
  working : String

namespace BuildSite

/-- The name of a lock file. -/
def lockName : String := "Cargo.lock"

/-- The package whose version is looked for. -/
def package : String := "serde_json"

/-- The version that is reported where none is found. -/
def unresolvedVersion : String := "1.0.0+unresolved"

/-- The path that segments have below the root. -/
def pathOf (site : BuildSite) (segments : List String) : String :=
  if segments.isEmpty then site.root
  else site.root ++ "/" ++ "/".intercalate segments

/-- The segments of a path below the root. -/
def segmentsOf (path : String) : List String :=
  if path.isEmpty then [] else FileTree.segments path

/-- The paths where a lock file may stand, from the nearest one on, with the content of the
file that stands there. Where the manifest directory is not known, it is the working
directory, and only that is looked at. -/
def candidates (site : BuildSite) : List (String × Option (List UInt8)) :=
  match site.manifest with
  | some manifest =>
    (ancestors (segmentsOf manifest)).map fun segments =>
      (FileTree.join (site.pathOf segments) lockName,
        site.tree.file? [] (segments ++ [lockName]))
  | none =>
    [(FileTree.join "." lockName, site.tree.file? [] (segmentsOf site.working ++ [lockName]))]

/-- The path and the content of the nearest lock file. -/
def lockFile? (site : BuildSite) : Option (String × List UInt8) :=
  site.candidates.findSome? fun c => c.2.map fun content => (c.1, content)

/-- An instruction to the build tool. -/
inductive Instruction where
  /-- Builds again when a file changes. -/
  | rerunIfChanged (path : String)
  /-- Warns that no version was found. -/
  | warnUnresolved
  /-- Stamps the build with a version. -/
  | stamp (version : String)
deriving DecidableEq, Repr

/-- The instruction as the build tool reads it. -/
def Instruction.line : Instruction → String
  | .rerunIfChanged path => "cargo::rerun-if-changed=" ++ path
  | .warnUnresolved =>
    s!"cargo::warning=no locked {package} version found, reporting {unresolvedVersion}"
  | .stamp version => "cargo::rustc-env=CPP_EXAMPLE_JSON_VERSION=" ++ version

/-- The version that the nearest lock file tells. -/
def version? (site : BuildSite) : Option String :=
  site.lockFile?.bind fun file => LockFile.version? package file.2

/-- The instructions of a build. -/
def instructions (site : BuildSite) : List Instruction :=
  (site.lockFile?.map fun file => Instruction.rerunIfChanged file.1).toList ++
    (if site.version?.isNone then [.warnUnresolved] else []) ++
    [.stamp (site.version?.getD unresolvedVersion), .rerunIfChanged "build.rs"]

/-- The text of the instructions. -/
def output (site : BuildSite) : String :=
  String.join (site.instructions.map fun i => i.line ++ "\n")

end BuildSite
end LinkReport
