import FlowIndex.Document
import FlowIndex.SortedList

namespace FlowIndex

structure Watcher where
  directory : Path
  excluded : List String
deriving Repr

namespace Watcher

-- The directories on the way to a file: those below the watched one, or all of them if the file
-- lies elsewhere.
def directoriesOf (w : Watcher) (p : Path) : List String :=
  match Path.below? w.directory p with
  | some parts => parts.dropLast
  | none => match p.anchor with
    | .relative => p.parts.dropLast
    | anchor => (anchor.text :: p.parts).dropLast

def wants (w : Watcher) (p : Path) : Bool :=
  (DocumentKind.ofPath? p).isSome && !(w.directoriesOf p).any w.excluded.contains

def documentsOf (w : Watcher) (cwd : Path) (paths : List String) :
    Except UriError (List String) := do
  return NameSet.ofList (← ((paths.map Path.ofString).filter w.wants).mapM (Uri.ofFile cwd))

-- The batches of documents that are passed on. A batch without a document is not, and one that
-- names a document that cannot be ends the watch.
def reports (w : Watcher) (cwd : Path) : List (List String) → Except UriError (List (List String))
  | [] => .ok []
  | paths :: batches => do
    let uris ← w.documentsOf cwd paths
    let later ← w.reports cwd batches
    return if uris.isEmpty then later else uris :: later

end Watcher

end FlowIndex
