import FlowIndex.Host.Struct

namespace FlowIndex

-- A struct without the time of change of its document.
def Struct.undated (s : Struct) : Struct :=
  { s with modified := 0 }

namespace Host

namespace Tree

mutual

theorem mem_nodes_of_child {u v : Tree} : (t : Tree) → v ∈ t.nodes → u ∈ v.children → u ∈ t.nodes
  | ⟨kind, role, start, stop, children⟩, mem, child => by
    rw [nodes] at mem ⊢
    obtain rfl | mem := List.mem_cons.mp mem
    case inl =>
      rw [nodesOf_eq]
      refine List.mem_cons_of_mem _ <| List.mem_flatMap.mpr ⟨u, child, ?_⟩
      rw [nodes_eq]
      exact List.mem_cons_self
    case inr => exact List.mem_cons_of_mem _ <| mem_nodesOf_of_child children mem child

theorem mem_nodesOf_of_child {u v : Tree} :
    (ts : List Tree) → v ∈ nodesOf ts → u ∈ v.children → u ∈ nodesOf ts
  | [], mem, _ => absurd mem List.not_mem_nil
  | t :: ts, mem, child => by
    rw [nodesOf] at mem ⊢
    obtain mem | mem := List.mem_append.mp mem
    case inl => exact List.mem_append_left _ <| mem_nodes_of_child t mem child
    case inr => exact List.mem_append_right _ <| mem_nodesOf_of_child ts mem child

end

theorem mem_of_mem_structNames {name : Tree} {ts : List Tree} (mem : name ∈ structNames ts) :
    name ∈ ts := by
  induction ts
  case nil => cases mem
  case cons t ts hi =>
    rw [structNames] at mem
    obtain own | later := List.mem_append.mp mem
    case inr => exact List.mem_cons_of_mem t <| hi later
    case inl =>
      split at own
      case isTrue =>
        obtain ⟨_, _, rfl⟩ := List.mem_map.mp own
        exact List.mem_cons_self
      case isFalse => cases own

theorem mem_nodes_of_mem_sortedSpecs {t spec name : Tree} (mem : (spec, name) ∈ t.sortedSpecs) :
    spec ∈ t.nodes ∧ name ∈ t.nodes := by
  rw [sortedSpecs, List.mem_mergeSort, structSpecs, List.mem_flatMap] at mem
  obtain ⟨spec, found, mem⟩ := mem
  obtain ⟨name, child, same⟩ := List.mem_map.mp mem
  cases same
  have found := (List.mem_filter.mp found).1
  exact ⟨found, mem_nodes_of_child t found <| mem_of_mem_structNames child⟩

end Tree

variable {source uri path : String} {time : Int} {parser : Parser} {ss : List Struct} {s : Struct}

-- The structs of a source hang on the parser for its tree only.
theorem structs_eq_map : structs source uri path time parser =
    (packageName source path (some uri) parser).map fun package =>
      (parser.parse source.toList).sortedSpecs.map fun (spec, name) =>
        structOf (Text.utf8 source.toList) package uri path time spec name := by
  rw [structs]
  cases packageName source path (some uri) parser <;> rfl

theorem exists_of_mem_structs (ok : structs source uri path time parser = .ok ss) (mem : s ∈ ss) :
    ∃ package spec name, (spec, name) ∈ (parser.parse source.toList).sortedSpecs ∧
      s = structOf (Text.utf8 source.toList) package uri path time spec name := by
  rw [structs_eq_map] at ok
  cases package : packageName source path (some uri) parser
  all_goals
    rw [package] at ok
    cases ok
  obtain ⟨⟨spec, name⟩, found, rfl⟩ := List.mem_map.mp mem
  exact ⟨_, spec, name, found, rfl⟩

theorem map_undated_structs (source uri path : String) (parser : Parser) (time time' : Int) :
    (structs source uri path time parser).map (List.map Struct.undated) =
      (structs source uri path time' parser).map (List.map Struct.undated) := by
  rw [structs_eq_map, structs_eq_map]
  cases packageName source path (some uri) parser
  case error => rfl
  case ok => exact congrArg Except.ok <| by rw [List.map_map, List.map_map]; rfl

end Host

end FlowIndex
