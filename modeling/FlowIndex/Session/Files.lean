import FlowIndex.Session.Run
import FlowIndex.Settings
import FlowIndex.Store.Files

namespace FlowIndex

def clockRate : Float := 1000

def Config.ofSettings (cwd : Path) (s : Settings)
    (tool : Option (String → Except Tool.Fault (Option Location))) : Config where
  root := s.root
  cwd := cwd
  excluded := s.excluded
  pace := ⟨(s.debounce * clockRate).toUInt64.toNat, s.trailing⟩
  tool := if s.useTool then tool else none

def FileStore.ofSettings (cwd : Path) (s : Settings) (tree : FileTree)
    (listing : Option Failure) : FileStore where
  tree := tree
  cwd := cwd.parts
  root := s.root
  excluded := s.excluded
  listing := listing

namespace Session

variable {σ : Type} [DocumentStore σ]

def ask (c : Config) (s : Session σ) (call : Call) : Session σ × Option Outcome :=
  let s := (s.spawn (.caller 0) call).settle c true
  ({ s with ended := [] }, s.ended.lookup 0)

end Session

end FlowIndex
