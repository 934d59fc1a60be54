import FlowIndex.Flow.Document
import FlowIndex.Host.Struct

namespace FlowIndex

structure Snapshot where
  operators : List Operator := []
  fragments : List Fragment := []
  structs : List Struct := []
  version : Nat := 0
  -- Whether a rebuild made the snapshot; the first one of a session is empty and made by none.
  built : Bool := false
deriving DecidableEq, Repr

namespace Snapshot

def findOperator (s : Snapshot) (name : String) : Option Operator :=
  s.operators.find? (·.name = name)

def findFragment (s : Snapshot) (name : String) : Option Fragment :=
  s.fragments.find? (·.name = name)

def findStruct (s : Snapshot) (name : String) : Option Struct :=
  s.structs.find? (·.name = name)

def operatorsIn (s : Snapshot) (uri : String) : List Operator :=
  s.operators.filter (·.uri = uri)

def describe (s : Snapshot) : String :=
  s!"WorkspaceIndex(version={s.version}, operators={s.operators.length}, fragments={s.fragments.length}, structs={s.structs.length})"

end Snapshot

-- How a rebuild went: whether it replaced the snapshot, what the snapshot holds, and one message
-- for each listing or document that failed.
structure RebuildResult where
  success : Bool
  operators : Nat := 0
  fragments : Nat := 0
  structs : Nat := 0
  errors : List String := []
  version : Nat := 0
deriving DecidableEq, Repr

end FlowIndex
