import FlowIndex.Proofs.Path
import FlowIndex.Store.FileTree

namespace FlowIndex.FileTree

variable {tree : FileTree} {here parts ps : List String} {node : Node} {s : String}

-- A name that a file can have.
structure IsName (s : String) : Prop extends Path.IsPart s where
  up : s ≠ ".."
  bytes : Char.ofNat 0 ∉ s.toList

instance : DecidablePred IsName :=
  fun s => decidable_of_iff (Path.IsPart s ∧ s ≠ ".." ∧ Char.ofNat 0 ∉ s.toList)
    ⟨fun ⟨part, up, bytes⟩ => ⟨part, up, bytes⟩, fun ⟨part, up, bytes⟩ => ⟨part, up, bytes⟩⟩

structure WellFormed (tree : FileTree) : Prop where
  unique : (tree.nodes.map Prod.fst).Nodup
  named : ∀ entry ∈ tree.nodes, ∀ part ∈ entry.1, IsName part
  rooted : ∀ entry ∈ tree.nodes, entry.1 ≠ [] ∧ tree.node? entry.1.dropLast = some .directory

instance : DecidablePred WellFormed :=
  fun tree => decidable_of_iff ((tree.nodes.map Prod.fst).Nodup ∧
      (∀ entry ∈ tree.nodes, ∀ part ∈ entry.1, IsName part) ∧
      ∀ entry ∈ tree.nodes, entry.1 ≠ [] ∧ tree.node? entry.1.dropLast = some .directory)
    ⟨fun ⟨unique, named, rooted⟩ => ⟨unique, named, rooted⟩,
      fun ⟨unique, named, rooted⟩ => ⟨unique, named, rooted⟩⟩

theorem mem_nodes_of_node? (found : tree.node? parts = some node) (some : parts ≠ []) :
    (parts, node) ∈ tree.nodes := by
  rw [node?, List.isEmpty_eq_false_iff.mpr some] at found
  obtain ⟨before, after, same, _⟩ := List.lookup_eq_some_iff.mp found
  simp [same]

theorem WellFormed.node?_eq (h : tree.WellFormed) (mem : (parts, node) ∈ tree.nodes) :
    tree.node? parts = some node := by
  rw [node?, List.isEmpty_eq_false_iff.mpr (h.rooted _ mem).1]
  obtain ⟨before, after, same⟩ := List.append_of_mem mem
  refine List.lookup_eq_some_iff.mpr ⟨before, after, same, fun entry earlier => ?_⟩
  have unique := h.unique
  rw [same, List.map_append, List.nodup_append] at unique
  have other : entry.1 ≠ parts := unique.2.2 _ (List.mem_map_of_mem earlier) _ (by simp)
  simpa using other.symm

theorem WellFormed.isName (h : tree.WellFormed) (found : tree.node? parts = some node) :
    ∀ part ∈ parts, IsName part := by
  intro part mem
  exact h.named _ (mem_nodes_of_node? found <| List.ne_nil_of_mem mem) part mem

theorem WellFormed.resolved (h : tree.WellFormed) (found : tree.node? parts = some node) :
    (Path.mk .root parts).Resolved where
  absolute := rfl
  wellFormed part mem := (h.isName found part mem).toIsPart
  down mem := (h.isName found _ mem).up rfl

theorem WellFormed.nullFree (h : tree.WellFormed) (found : tree.node? parts = some node) :
    (Path.mk .root parts).NullFree :=
  fun part mem => (h.isName found part mem).bytes

section Walking

variable {bytes : List UInt8} {time : Int}

-- Nothing is above the top directory but itself.
theorem WellFormed.parent (h : tree.WellFormed) (found : tree.node? here = some .directory) :
    tree.node? here.dropLast = some .directory := by
  cases here
  case nil => exact found
  case cons part rest => exact (h.rooted _ <| mem_nodes_of_node? found (by simp)).2

theorem walk_nil (walked : tree.walk here [] = .ok node) : tree.node? here = some node := by
  unfold walk at walked
  split at walked
  case h_1 found => rwa [← Except.ok.inj walked]
  case h_2 => cases walked

theorem walk_cons {part : String} (walked : tree.walk here (part :: ps) = .ok node) :
    tree.node? here = some .directory ∧
      (part = ".." ∧ tree.walk here.dropLast ps = .ok node ∨
        part ≠ ".." ∧ tree.walk (here ++ [part]) ps = .ok node) := by
  unfold walk at walked
  grind

theorem node?_of_walk (walked : tree.walk here ps = .ok node) :
    tree.node? (Path.normalizeParts here.reverse ps) = some node := by
  induction ps generalizing here
  case nil => simpa [Path.normalizeParts] using walk_nil walked
  case cons part ps hi =>
    obtain ⟨-, ⟨rfl, above⟩ | ⟨down, inside⟩⟩ := walk_cons walked
    case inl => simpa [Path.normalizeParts] using hi above
    case inr => simpa [Path.normalizeParts_cons down] using hi inside

-- A walk that goes up comes to a directory, so that a file has the last name on the way to it.
theorem WellFormed.last_of_walk (h : tree.WellFormed) (some : ps ≠ [])
    (walked : tree.walk here ps = .ok (.file bytes time)) :
    (Path.normalizeParts here.reverse ps).getLast? = ps.getLast? := by
  induction ps generalizing here
  case nil => contradiction
  case cons part ps hi =>
    obtain ⟨directory, step⟩ := walk_cons walked
    by_cases last : ps = []
    case pos =>
      subst last
      obtain ⟨rfl, above⟩ | ⟨down, -⟩ := step
      case inl => cases (h.parent directory).symm.trans (walk_nil above)
      case inr => simp [Path.normalizeParts_cons down, Path.normalizeParts]
    case neg =>
      rw [List.getLast?_cons_of_ne_nil last]
      obtain ⟨rfl, above⟩ | ⟨down, inside⟩ := step
      case inl => simpa [Path.normalizeParts] using hi last above
      case inr => simpa [Path.normalizeParts_cons down] using hi last inside

end Walking

end FlowIndex.FileTree
