import FlowIndex.Tool.Symbols

namespace FlowIndex.Tool

structure Client where
  executable : String
  root : Path
deriving DecidableEq, Repr

def Client.discover (executable : Option String) (root : Path) : Option Client :=
  executable.map fun e => { executable := e, root }

inductive Run
  | notStarted (message : String)
  | hangs
  | exits (code : Int) (output : List UInt8)
deriving DecidableEq, Repr

-- What the client does to a run that does not end.
inductive Signal
  | kill
  | wait
deriving DecidableEq, Repr

-- A question put to the tool: the command line and directory of the run, if it started, what was
-- done to end it, and the answer.
structure Question where
  started : Option (List String × String)
  signals : List Signal
  answer : Except Fault (Option Location)

-- Asks where a struct stands, given how the run goes. A run that fails answers nothing.
def Client.ask (c : Client) (cwd : Path) (name : String) (run : Run)
    (resolve : Path → Except UriError Path := Uri.unlinked cwd) : Question :=
  let command := some ([c.executable, "workspace_symbol", name], c.root.toString)
  match run with
  | .notStarted message => { started := none, signals := [], answer := .error (.spawn message) }
  | .hangs => { started := command, signals := [.kill, .wait], answer := .ok none }
  | .exits code output =>
    { started := command, signals := []
      answer := if code = 0 then
          findStruct cwd c.root (String.ofList (Text.decodeLossy output)) name resolve
        else .ok none }

end FlowIndex.Tool
