import FlowIndex.Command.Shell

namespace FlowIndex.Main

-- Adds a file to a tree, if it is a document. Files that cannot be read are left out.
def addFile (tree : FileTree) (entry : IO.FS.DirEntry) : IO FileTree := do
  let path := Path.ofString entry.path.toString
  if (DocumentKind.ofPath? path).isNone then return tree
  try
    let bytes ← IO.FS.readBinFile entry.path
    let modified := (← entry.path.metadata).modified.sec
    return tree.write path.parts bytes.toList modified
  catch _ => return tree

partial def addEntry (excluded : List String) (tree : FileTree) (entry : IO.FS.DirEntry) :
    IO FileTree := do
  if ← entry.path.isDir then
    if excluded.contains entry.fileName then return tree
    let mut tree := tree.makeDirectory (Path.ofString entry.path.toString).parts
    for inner in ← entry.path.readDir do
      tree ← addEntry excluded tree inner
    return tree
  else addFile tree entry

def entryOf (path : Path) : IO IO.FS.DirEntry := do
  return { root := (← IO.currentDir) / path.parent.toString, fileName := path.name }

def readTree (root : Path) (excluded : List String) (named : List Path) : IO FileTree := do
  let mut tree : FileTree := {}
  for path in named do
    tree ← addFile tree (← entryOf path)
  let dir := (← IO.currentDir) / root.toString
  if ← dir.isDir then
    tree := tree.makeDirectory root.parts
    for entry in ← dir.readDir do
      tree ← addEntry excluded tree entry
  return tree

def namedFiles : Command.Action → List String
  | .check files => files
  | .definition file _ _ => [file]
  | .hover file _ _ => [file]
  | _ => []

def printLines (lines : List String) : IO Unit := do
  lines.forM IO.println
  (← IO.getStdout).flush

def finish (lines : List String) (ending : Command.Ending) : IO UInt32 := do
  printLines lines
  match ending with
  | .exit code => return UInt32.ofNat code
  | .failed f =>
    IO.eprintln f.message
    return 1
  | .badMarkup e =>
    IO.eprintln e.message
    return 1

def pollTime : Nat := 500

partial def watchOn (config : Config) (session : Session FileStore) : IO Unit := do
  IO.sleep (UInt32.ofNat pollTime)
  let store := session.workspace.store
  let tree ← readTree config.root config.excluded []
  let changed := FileTree.changes store.tree tree
  let session := session.apply config (.store fun f => { f with tree })
  let session := (session.apply config (.files changed)).settle config true
  let session := (session.advance config true pollTime).settle config true
  printLines session.workspace.console
  watchOn config (session.modifyWorkspace fun w => { w with console := [] })

def run (i : Command.Invocation) : IO UInt32 := do
  let cwd := Path.ofString (← IO.currentDir).toString
  let names := ["ROOT", "DEBOUNCE_SECONDS", "TRAILING_REBUILD", "USE_GOPLS", "EXCLUDE"]
  let set ← names.mapM fun name => do
    let name := "GORCH_INDEX_" ++ name
    return (name, ← IO.getEnv name)
  let variableOf (name : String) : Option String := (set.lookup name).join
  let tree ← match Settings.load cwd variableOf i.root with
    | .ok s =>
      readTree s.root s.excluded ((namedFiles i.action).map fun f => Path.resolve cwd (.ofString f))
    | .error _ => pure {}
  let e : Command.Environment := { cwd, variableOf, tree }
  match i.action with
  | .watch =>
    match (Command.watch e i.root).run [] with
    | (.ok r, lines) =>
      printLines lines
      watchOn r.config (r.session.modifyWorkspace fun w => { w with console := [] })
      return 0
    | (.error ending, lines) => finish lines ending
  | _ =>
    match (Command.perform e i).run [] with
    | (.ok (), lines) => finish lines (.exit 0)
    | (.error ending, lines) => finish lines ending

def usage : String :=
  "Usage: gorch-index [-v] (index | check [FILES] | definition FILE LINE COL | hover FILE LINE COL | watch | serve mcp [--transport NAME]) [--root DIR]"

end FlowIndex.Main

def main (args : List String) : IO UInt32 := do
  match FlowIndex.Command.parse args with
  | .run i => FlowIndex.Main.run i
  | .help =>
    IO.println FlowIndex.Main.usage
    return 0
  | .misuse =>
    IO.eprintln FlowIndex.Main.usage
    return 2
