import FlowIndex.Path
import FlowIndex.Text.Quoted
import FlowIndex.Text.Utf8

namespace FlowIndex

inductive Node
  | directory
  | file (bytes : List UInt8) (modified : Int)
deriving DecidableEq, Repr

inductive SystemCause
  | missing
  | notADirectory
  | isADirectory
  | nameTooLong
deriving DecidableEq, Repr

structure SystemError where
  cause : SystemCause
  path : String
deriving DecidableEq, Repr

def SystemCause.text : SystemCause → String
  | .missing => "[Errno 2] No such file or directory"
  | .notADirectory => "[Errno 20] Not a directory"
  | .isADirectory => "[Errno 21] Is a directory"
  | .nameTooLong => "[Errno 36] File name too long"

def SystemError.message (e : SystemError) : String :=
  s!"{e.cause.text}: {Text.quoted e.path}"

-- The nodes of a tree by the components of their absolute paths. There are no symbolic links.
structure FileTree where
  nodes : List (List String × Node) := []
deriving Repr

namespace FileTree

def nameLimit : Nat := 255

def pathLimit : Nat := 4096

def byteLength (s : String) : Nat :=
  (Text.utf8 s.toList).length

def node? (tree : FileTree) (parts : List String) : Option Node :=
  if parts.isEmpty then some .directory else tree.nodes.lookup parts

def setNode (tree : FileTree) (parts : List String) (node : Node) : FileTree :=
  ⟨(parts, node) :: tree.nodes.filter (·.1 ≠ parts)⟩

def makeDirectories (tree : FileTree) (done : List String) : List String → FileTree
  | [] => tree
  | p :: ps =>
    let here := done ++ [p]
    let tree := if (tree.node? here).isSome then tree else tree.setNode here .directory
    makeDirectories tree here ps

def write (tree : FileTree) (parts : List String) (bytes : List UInt8) (modified : Int) :
    FileTree :=
  (tree.makeDirectories [] parts.dropLast).setNode parts (.file bytes modified)

def makeDirectory (tree : FileTree) (parts : List String) : FileTree :=
  tree.makeDirectories [] parts

def walk (tree : FileTree) (here : List String) : List String → Except SystemCause Node
  | [] => match tree.node? here with
    | some node => .ok node
    | none => .error .missing
  | p :: ps =>
    match tree.node? here with
    | none => .error .missing
    | some (.file _ _) => .error .notADirectory
    | some .directory =>
      -- There is nothing above the top directory but itself.
      if p = ".." then tree.walk here.dropLast ps
      else if nameLimit < byteLength p then .error .nameTooLong
      else tree.walk (here ++ [p]) ps

def follow (tree : FileTree) (cwd : List String) (p : Path) : Except SystemError Node :=
  let walked :=
    if pathLimit ≤ byteLength p.toString then .error .nameTooLong
    else tree.walk (if p.isAbsolute then [] else cwd) p.parts
  walked.mapError (⟨·, p.toString⟩)

def open? (tree : FileTree) (cwd : List String) (p : Path) :
    Except SystemError (List UInt8 × Int) := do
  match ← tree.follow cwd p with
  | .file bytes modified => return (bytes, modified)
  | .directory => throw ⟨.isADirectory, p.toString⟩

-- The time at which directories are made and changed: that of the system's clock, which stands still
-- here. Only files can be given another one.
def systemTime : Int := 1700000000

def modified (tree : FileTree) (cwd : List String) (p : Path) : Except SystemError Int := do
  match ← tree.follow cwd p with
  | .file _ modified => return modified
  | .directory => return systemTime

def changes (old new : FileTree) : List String :=
  let paths := (old.nodes ++ new.nodes).map (·.1)
  (paths.eraseDups.filter fun parts => old.node? parts ≠ new.node? parts).map fun parts =>
    (Path.mk .root parts).toString

def remove (tree : FileTree) (parts : List String) : Except SystemError FileTree := do
  let path : Path := ⟨.root, parts⟩
  let _ ← tree.open? [] path
  return ⟨tree.nodes.filter (·.1 ≠ parts)⟩

end FileTree

end FlowIndex
