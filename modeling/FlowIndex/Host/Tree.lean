import FlowIndex.Host.SourceLines

namespace FlowIndex.Host

structure Edge where
  byte : Nat
  point : SourcePoint
deriving DecidableEq, Repr

def Edge.atOffset (cs : List Char) (offset : Nat) : Edge :=
  ⟨byteOffset cs offset, .atOffset cs offset⟩

structure Tree where
  kind : String
  -- The field of the node above that the node fills.
  role : Option String := none
  start : Edge
  stop : Edge
  children : List Tree := []

namespace Tree

mutual

def nodes : Tree → List Tree
  | ⟨kind, role, start, stop, children⟩ => ⟨kind, role, start, stop, children⟩ :: nodesOf children

def nodesOf : List Tree → List Tree
  | [] => []
  | t :: ts => t.nodes ++ nodesOf ts

end

theorem nodes_eq (t : Tree) : t.nodes = t :: nodesOf t.children := by
  cases t
  rw [nodes]

theorem nodesOf_eq (ts : List Tree) : nodesOf ts = ts.flatMap nodes := by
  induction ts
  case nil => rfl
  case cons t ts hi => rw [nodesOf, hi, List.flatMap_cons]

def Between (cs : List Char) (t : Tree) : Prop :=
  ∃ a b, t.start = .atOffset cs a ∧ t.stop = .atOffset cs b

def text (bytes : List UInt8) (t : Tree) : String :=
  String.ofList (textBetween bytes t.start.byte t.stop.byte)

def isName (t : Tree) : Bool :=
  t.role = some "name" && t.kind = "type_identifier"

def isStruct (t : Tree) : Bool :=
  t.role = some "type" && t.kind = "struct_type"

def structNames : List Tree → List Tree
  | [] => []
  | t :: ts => (if t.isName then (ts.filter isStruct).map fun _ => t else []) ++ structNames ts

def structSpecs (t : Tree) : List (Tree × Tree) :=
  (t.nodes.filter (·.kind = "type_spec")).flatMap fun spec =>
    (structNames spec.children).map (spec, ·)

def sortedSpecs (t : Tree) : List (Tree × Tree) :=
  t.structSpecs.mergeSort fun (a, _) (b, _) => a.start.byte ≤ b.start.byte

def packageNames (t : Tree) : List Tree :=
  ((t.children.filter (·.kind = "package_clause")).flatMap (·.children)).filter
    (·.kind = "package_identifier")

end Tree

-- A parser of Go. All that is known of it is that the nodes of its trees begin and end between
-- characters, whatever the source is.
structure Parser where
  parse : List Char → Tree
  between (cs : List Char) : ∀ t ∈ (parse cs).nodes, t.Between cs

end FlowIndex.Host
