import FlowIndex.SortedList
import FlowIndex.Store.Basic

namespace FlowIndex

structure MemoryDocument where
  text : String
  written : Nat
deriving DecidableEq, Repr

-- The clock counts the writes, and a document takes the time of its last one.
structure MemoryStore where
  documents : List (String × MemoryDocument) := []
  unreadable : List String := []
  clock : Nat := 0
  flowListing : Option Failure := none
  hostListing : Option Failure := none
deriving Repr

namespace MemoryStore

def put (m : MemoryStore) (uri text : String) : MemoryStore :=
  { m with
    clock := m.clock + 1
    documents := NameMap.set uri ⟨text, m.clock + 1⟩ m.documents }

def delete (m : MemoryStore) (uri : String) : MemoryStore :=
  { m with documents := NameMap.erase uri m.documents }

def setUnreadable (m : MemoryStore) (uri : String) (value : Bool) : MemoryStore :=
  { m with
    unreadable := if value then NameSet.insert uri m.unreadable
      else m.unreadable.filter (· ≠ uri) }

def setListing (m : MemoryStore) (kind : DocumentKind) (fault : Option Failure) : MemoryStore :=
  match kind with
  | .flow => { m with flowListing := fault }
  | .host => { m with hostListing := fault }

def kindOf (uri : String) : Option DocumentKind :=
  DocumentKind.ofPath? (.ofString uri)

def list (m : MemoryStore) (kind : DocumentKind) : Except Failure (List String) :=
  match (match kind with | .flow => m.flowListing | .host => m.hostListing) with
  | some fault => .error fault
  | none => .ok ((m.documents.map (·.1)).filter fun uri => kindOf uri = some kind)

def read (m : MemoryStore) (uri : String) : Except Failure SourceDocument :=
  match kindOf uri, NameMap.get? uri m.documents with
  | some kind, some d =>
    if m.unreadable.contains uri then .error (.unreadable uri "permission denied")
    else .ok { uri, kind, text := d.text, revision := d.written }
  | _, _ => .error (.unreadable uri "no such document")

def modified (m : MemoryStore) (uri : String) : Except Failure Int :=
  match NameMap.get? uri m.documents with
  | some d => .ok d.written
  | none => .error (.unreadable uri "no such document")

instance : DocumentStore MemoryStore where
  kindOf _ uri := .ok (kindOf uri)
  relativePath _ uri := .ok uri
  list := list
  read := read
  modified := modified

end MemoryStore

end FlowIndex
