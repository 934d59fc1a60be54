import FlowIndex.Double
import FlowIndex.Store.Basic
import FlowIndex.Store.FileTree

namespace FlowIndex

structure FileStore where
  tree : FileTree
  cwd : List String
  root : Path
  excluded : List String
  listing : Option Failure := none
deriving Repr

namespace FileStore

def kindOf (uri : String) : Except UriError (Option DocumentKind) := do
  return DocumentKind.ofPath? (← Uri.toPath uri)

def relativePath (f : FileStore) (uri : String) : Except UriError String := do
  return (Path.relativeTo f.root (← Uri.toPath uri)).toString

def partsLe : List String → List String → Bool
  | [], _ => true
  | _ :: _, [] => false
  | p :: ps, q :: qs => p < q || (p = q && partsLe ps qs)

def isListed (f : FileStore) (kind : DocumentKind) (parts : List String) (node : Node) : Bool :=
  match node with
  | .directory => false
  | .file _ _ =>
    (parts.getLastD "").endsWith kind.suffix && !parts.dropLast.any f.excluded.contains

def listed (f : FileStore) (kind : DocumentKind) : List (List String) :=
  (f.tree.nodes.filterMap fun (parts, node) =>
    match Path.below? f.root ⟨.root, parts⟩ with
    | some (part :: rest) => if f.isListed kind (part :: rest) node then some parts else none
    | _ => none).mergeSort partsLe

def list (f : FileStore) (kind : DocumentKind) : Except Failure (List String) :=
  match f.listing with
  | some fault => .error fault
  | none => .ok ((f.listed kind).map fun parts => Uri.ofPath ⟨.root, parts⟩)

-- Nanoseconds in a second: revisions are finer than the times of change that are compared.
def nanoseconds : Nat := 1000000000

-- The text of a file; its line ends are unified.
def textOf (bytes : List UInt8) : Except Text.DecodeError String := do
  return String.ofList (Text.unifyNewlines (← Text.decode bytes))

-- The path of a document. The system is never asked about one with a null byte.
def systemPath (uri : String) : Except UriError Path := do
  let path ← Uri.toPath uri
  if path.toString.toList.contains (Char.ofNat 0) then throw .nullByte else return path

def read (f : FileStore) (uri : String) : Except Failure SourceDocument := do
  let some kind ← (kindOf uri).mapError .name | throw (.unreadable uri "unsupported file type")
  let path ← (systemPath uri).mapError .name
  let (bytes, modified) ←
    (f.tree.open? f.cwd path).mapError fun e => .unreadable uri e.message
  let text ← (textOf bytes).mapError fun e => .unreadable uri e.message
  return { uri, kind, text, revision := modified * nanoseconds }

def modified (f : FileStore) (uri : String) : Except Failure Int := do
  let path ← (systemPath uri).mapError .name
  let time ← (f.tree.modified f.cwd path).mapError fun e => .unreadable uri e.message
  return Double.ofInt time

instance : DocumentStore FileStore where
  kindOf _ := kindOf
  relativePath := relativePath
  list := list
  read := read
  modified := modified

end FileStore

end FlowIndex
