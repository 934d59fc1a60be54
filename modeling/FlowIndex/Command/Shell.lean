import FlowIndex.Command.Arguments
import FlowIndex.Console.Table
import FlowIndex.Session.Files

namespace FlowIndex.Command

inductive Ending
  | exit (code : Nat)
  | failed (f : Failure)
  | badMarkup (e : Markup.MarkupError)
deriving DecidableEq, Repr

abbrev Shell := ExceptT Ending (StateM (List String))

-- What a command leaves: its lines, how it ended, and over which transport it serves requests.
structure Result where
  lines : List String
  ending : Ending
  served : Option String := none
deriving DecidableEq, Repr

structure Environment where
  cwd : Path
  variableOf : String → Option String
  tree : FileTree
  tool : Option (String → Except Tool.Fault (Option Location)) := none
  listing : Option Failure := none

namespace Shell

def printLines (lines : List String) : Shell Unit :=
  modify (· ++ lines)

def print (markup : String) : Shell Unit :=
  match Markup.lines markup with
  | .ok lines => printLines lines
  | .error e => throw (.badMarkup e)

def printPlain (colour text : String) : Shell Unit :=
  let escaped := Markup.escape text
  print s!"[{colour}]{escaped}[/{colour}]"

def refuse {α : Type} (message : String) : Shell α := do
  printPlain "red" message
  throw (.exit 2)

-- Ends with a failure. One of a document is told to the user; any other escapes.
def fail {α : Type} (f : Failure) : Shell α :=
  match f with
  | .unreadable _ _ => refuse f.message
  | f => throw (.failed f)

end Shell

structure Running where
  config : Config
  session : Session FileStore

def settingsMessage (errors : List FieldError) : String :=
  let list := ", ".intercalate (errors.map fun e => s!"{e.field} {e.cause.text}")
  s!"Invalid settings: {list}"

def openSession (e : Environment) (root : Option String) : Shell Running :=
  match Settings.load e.cwd e.variableOf (root.map fun r => if r = "" then "." else r) with
  | .error (.fields errors) => Shell.refuse (settingsMessage errors)
  | .error (.root e) => throw (.failed (.name e))
  | .ok settings =>
    return { config := .ofSettings e.cwd settings e.tool
             session := .ofStore (.ofSettings e.cwd settings e.tree e.listing) }

namespace Running

def ask (r : Running) (call : Call) : Running × Option Outcome :=
  let (session, o) := r.session.ask r.config call
  ({ r with session }, o)

def documentUri (r : Running) (path : String) : Shell String :=
  match Uri.ofFile r.config.cwd (.ofString path) with
  | .ok uri => return uri
  | .error e => Shell.fail (.name e)

def relativePath (r : Running) (uri : String) : Shell String :=
  match DocumentStore.relativePath r.session.workspace.store uri with
  | .ok path => return path
  | .error e => Shell.fail (.name e)

-- Checks documents one by one. A document that is named twice is checked twice, and listed where it
-- was named first.
def checkEach (r : Running) (checked : List (String × List Diagnostic)) :
    List String → Shell (List (String × List Diagnostic))
  | [] => return checked
  | file :: files => do
    let uri ← r.documentUri file
    match r.ask (.query (.check uri none)) with
    | (r, some (.problems ds)) =>
      let checked :=
        if checked.any (·.1 = uri) then
          checked.map fun (u, old) => if u = uri then (u, ds) else (u, old)
        else checked ++ [(uri, ds)]
      checkEach r checked files
    | (_, some (.failed f)) => Shell.fail f
    | (r, _) => checkEach r checked files

def checkAll (r : Running) : Shell (List (String × List Diagnostic)) :=
  match (r.ask (.query .checkAll)).2 with
  | some (.allProblems all) => return all
  | some (.failed f) => Shell.fail f
  | _ => return []

def printProblems (r : Running) (uri : String) (ds : List Diagnostic) : Shell Unit := do
  let path ← r.relativePath uri
  for d in ds do
    Shell.print (Report.problem path d)

end Running

def check (e : Environment) (root : Option String) (files : List String) : Shell Unit := do
  let r := ((← openSession e root).ask .refresh).1
  let all ← if files.isEmpty then r.checkAll else r.checkEach [] files
  for (uri, ds) in all do
    r.printProblems uri ds
  let total : Nat := all.foldl (fun n (_, ds) => n + ds.length) 0
  if total = 0 then
    Shell.print s!"[green]No problems[/green] in {all.length} file(s)"
  else
    Shell.print s!"[red]{total} problem(s)[/red] in {all.length} file(s)"
    throw (.exit 1)

def placeOf (line column : Int) : Shell Position := do
  if line < 1 || column < 1 then
    Shell.print "[red]LINE and COL are 1-based and must be positive.[/red]"
    throw (.exit 2)
  return ⟨(line - 1).toNat, (column - 1).toNat⟩

def definition (e : Environment) (root : Option String) (file : String) (line column : Int) :
    Shell Unit := do
  -- A place that cannot be is refused before the settings are read.
  let p ← placeOf line column
  let r := ((← openSession e root).ask .refresh).1
  match (r.ask (.query (.definition (← r.documentUri file) (.ok p) none))).2 with
  | some (.location (some l)) =>
    let path ← r.relativePath l.uri
    Shell.print (Report.place path l.span.start)
  | some (.failed f) => Shell.fail f
  | _ =>
    Shell.print "[yellow]No definition found.[/yellow]"
    throw (.exit 1)

def hover (e : Environment) (root : Option String) (file : String) (line column : Int) :
    Shell Unit := do
  let p ← placeOf line column
  let r := ((← openSession e root).ask .refresh).1
  match (r.ask (.query (.hover (← r.documentUri file) (.ok p) none))).2 with
  | some (.hover (some h)) => Shell.printLines (Markup.plainLines h.contents)
  | some (.failed f) => Shell.fail f
  | _ =>
    Shell.print "[yellow]Nothing to show.[/yellow]"
    throw (.exit 1)

-- The duration that the table shows; it is not measured.
def noDuration : String := "0.0"

def index (e : Environment) (root : Option String) : Shell Unit := do
  let (r, rebuilt) := (← openSession e root).ask .refresh
  match rebuilt, (r.ask (.query .summary)).2 with
  | some (.rebuilt (some result)), some (.summary s) =>
    Shell.printLines (Table.render
      ["version", "operators", "fragments", "structs", "stale", "duration_ms"]
      [[s.version, s.operators, s.fragments, s.structs, s.stale].map toString ++ [noDuration]])
    for error in result.errors do
      Shell.printPlain "yellow" error
    if !result.success then throw (.exit 1)
  | _, some (.failed f) => throw (.failed f)
  | _, _ => return

def watch (e : Environment) (root : Option String) : Shell Running := do
  let r ← openSession e root
  Shell.print s!"Watching {r.config.root} (Ctrl+C to stop)"
  let (r, o) := r.ask .watchCommand
  Shell.printLines r.session.workspace.console
  match o with
  | some (.failed f) => throw (.failed f)
  | _ => return r

def serve (e : Environment) (root : Option String) (transport : String) : Shell Unit := do
  let r ← openSession e root
  Shell.print s!"[green]Starting MCP server for {r.config.root} (transport: {transport})[/green]"

def perform (e : Environment) (i : Invocation) : Shell Unit :=
  match i.action with
  | .index => index e i.root
  | .check files => check e i.root files
  | .definition file line column => definition e i.root file line column
  | .hover file line column => hover e i.root file line column
  | .watch => discard (watch e i.root)
  | .serve transport => serve e i.root transport

def Action.transport? : Action → Option String
  | .serve transport => some transport
  | _ => none

def run (e : Environment) (args : List String) : Result :=
  match parse args with
  | .help => { lines := [], ending := .exit 0 }
  | .misuse => { lines := [], ending := .exit 2 }
  | .run i =>
    match (perform e i).run [] with
    | (.ok (), lines) => { lines, ending := .exit 0, served := i.action.transport? }
    | (.error ending, lines) => { lines, ending }

end FlowIndex.Command
