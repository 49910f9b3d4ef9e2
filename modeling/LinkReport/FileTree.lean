/-!
# Files and lexical ancestors

A tree of files is known by the names that lead to its files. A path is a text, and its
ancestors are found in the text alone: each drops the last name of the one before, with
the slashes and the single points around it. Whether a file stands at a path is found by
walking along its names, where two points lead back and every name on the way must be a
directory.
-/

namespace LinkReport

/-- What stands in a tree of files. -/
inductive FileNode where
  | file (content : List UInt8)
  | directory
deriving DecidableEq, Repr

/-- A tree of files, by the names that lead to its nodes. A directory that only holds other
nodes need not be listed. -/
structure FileTree where
  nodes : List (List String × FileNode)

namespace FileTree

/-- The path of a name in a directory. No slash is put in after one, nor before the name
alone. -/
def join (directory name : String) : String :=
  if directory.toList.getLast?.all (· == '/') then directory ++ name
  else directory ++ "/" ++ name

/-- The parts of a path between its slashes. -/
def segments (path : String) : List String :=
  (path.toList.splitOn '/').map String.ofList

/-- A part that is no name: nothing between two slashes, or a single point. -/
def isIdle (segment : String) : Bool :=
  segment == "" || segment == "."

/-- The tree with these files and directories, each given by a path. -/
def ofPaths (nodes : List (String × FileNode)) : FileTree :=
  ⟨nodes.map fun n => ((segments n.1).filter (!isIdle ·), n.2)⟩

/-- What the names lead to, from the root of the tree. -/
def node? (tree : FileTree) (names : List String) : Option FileNode :=
  match tree.nodes.lookup names with
  | some node => some node
  | none =>
    if names.isEmpty || tree.nodes.any (fun n => names.isPrefixOf n.1) then some .directory
    else none

/-- The names that lead to where the segments lead from a place; none if the way leads
through something that is no directory. -/
def walk? (tree : FileTree) (place : List String) : List String → Option (List String)
  | [] => some place
  | segment :: rest =>
    if tree.node? place = some .directory then
      if isIdle segment then tree.walk? place rest
      -- above the root of the tree nothing is known
      else if segment = ".." then
        if place.isEmpty then none else tree.walk? place.dropLast rest
      else tree.walk? (place ++ [segment]) rest
    else none

/-- The content of the file that the segments lead to from a place. -/
def file? (tree : FileTree) (place segments : List String) : Option (List UInt8) :=
  match (tree.walk? place segments).bind tree.node? with
  | some (.file content) => some content
  | _ => none

end FileTree

/-- The segments before the last name, without the idle ones that follow the name before
it; none if there is no name. -/
def parentSegments? (segments : List String) : Option (List String) :=
  match segments.reverse.dropWhile FileTree.isIdle with
  | [] => none
  | _ :: rest => some (rest.dropWhile FileTree.isIdle).reverse

/-- The segments of a path and of its ancestors, from the path itself on. Each ancestor has
fewer segments, so their number is fuel enough. -/
def ancestorsFrom : Nat → List String → List (List String)
  | 0, segments => [segments]
  | fuel + 1, segments =>
    match parentSegments? segments with
    | some parent => segments :: ancestorsFrom fuel parent
    | none => [segments]

/-- The segments of a path and of its ancestors. -/
def ancestors (segments : List String) : List (List String) :=
  ancestorsFrom segments.length segments

end LinkReport
