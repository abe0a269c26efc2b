import CompilerFront.Fault
import CompilerFront.Text.Raw

/-!
Contract: a tree of files and the paths into it.

Owns:
- `FileNode`, a file with its content or a directory;
- following a path, with the refusals that the system gives on the way;
- reading, writing and removing files.
-/

namespace CompilerFront.Host

inductive FileNode where
  | file (content : Text.Raw)
  | directory (entries : List (String × FileNode))
deriving Repr

namespace FileNode

def child? (name : String) : FileNode → Option FileNode
  | .file _ => none
  | .directory entries => (entries.find? fun entry => entry.1 = name).map Prod.snd

/-- A directory with another node for a name; a file stays as it is. -/
def setChild (tree : FileNode) (name : String) (node : FileNode) : FileNode :=
  match tree with
  | .file content => .file content
  | .directory entries =>
    if entries.any fun entry => entry.1 = name then
      .directory (entries.map fun entry => if entry.1 = name then (name, node) else entry)
    else .directory (entries ++ [(name, node)])

/-- A directory without a name; a file stays as it is. -/
def removeChild (name : String) : FileNode → FileNode
  | .file content => .file content
  | .directory entries => .directory (entries.filter fun entry => entry.1 ≠ name)

/-- Puts a node at the end of a row of names and makes the directories on the way. -/
def put (tree : FileNode) (names : List String) (node : FileNode) : FileNode :=
  match names with
  | [] => node
  | name :: rest =>
    tree.setChild name (((tree.child? name).getD (.directory [])).put rest node)

def remove (tree : FileNode) (names : List String) : FileNode :=
  match names with
  | [] => tree
  | [name] => tree.removeChild name
  | name :: rest =>
    match tree.child? name with
    | some inner => tree.setChild name (inner.remove rest)
    | none => tree

/-- The system refuses names of more bytes than this. -/
def longestName : Nat := 255

/-- Follows names down from a node; `above` holds the nodes over it, the nearest first. -/
def follow (above : List FileNode) (node : FileNode) (names : List String) :
    Except SystemRefusal FileNode :=
  match names with
  | [] => .ok node
  | name :: rest =>
    match node with
    | .file _ => .error .notDirectory
    | .directory entries =>
      if name = "." then follow above node rest
      else if name = ".." then
        match above with
        | [] => follow [] node rest
        | parent :: higher => follow higher parent rest
      else if longestName < name.utf8ByteSize then .error .nameTooLong
      else
        match (FileNode.directory entries).child? name with
        | none => .error .notFound
        | some inner => follow (node :: above) inner rest

end FileNode

def pathNames (path : String) : List String :=
  (path.splitOn "/").filter fun name => !name.isEmpty

/-- The directory that relative paths start in. -/
def workingNames : List String := ["tmp", "work"]

/-- The directories that every system has. -/
def emptySystem : FileNode :=
  .directory
    [("bin", .directory []), ("dev", .directory [("null", .file [])]),
      ("etc", .directory [("passwd", .file [])]), ("home", .directory []),
      ("tmp", .directory [("work", .directory [])]),
      ("usr", .directory [("bin", .directory [])])]

/-- Files as a run finds them: the whole tree, with the working directory at a fixed place. -/
structure Files where
  tree : FileNode := emptySystem

namespace Files

/-- The names from the root of the tree to a path without names that lead upwards. -/
def fullNames (path : String) : List String :=
  let names := (pathNames path).filter fun name => name ≠ "."
  if path.startsWith "/" then names else workingNames ++ names

/-- The node that a path leads to; a path that ends in a slash leads to a directory. -/
def node? (files : Files) (path : String) : Except SystemRefusal FileNode :=
  if path.isEmpty then .error .notFound
  else
    let names := if path.startsWith "/" then pathNames path else workingNames ++ pathNames path
    match files.tree.follow [] names with
    | .ok (.file content) => if path.endsWith "/" then .error .notDirectory else .ok (.file content)
    | other => other

def content? (files : Files) (path : String) : Except SystemRefusal Text.Raw :=
  match files.node? path with
  | .ok (.file content) => .ok content
  | .ok (.directory _) => .error .isDirectory
  | .error refusal => .error refusal

def readText (files : Files) (path : String) : Except IoFault String :=
  match files.content? path with
  | .error refusal => .error (.system refusal)
  | .ok content =>
    match content.toText? with
    | some text => .ok text
    | none => .error .notText

/-- The files with a file at a path and the directories on the way to it. -/
def write (files : Files) (path : String) (content : Text.Raw) : Files :=
  ⟨files.tree.put (fullNames path) (.file content)⟩

def makeDirectory (files : Files) (path : String) : Files :=
  match files.node? path with
  | .ok _ => files
  | .error _ => ⟨files.tree.put (fullNames path) (.directory [])⟩

def remove (files : Files) (path : String) : Files :=
  ⟨files.tree.remove (fullNames path)⟩

end Files

end CompilerFront.Host
