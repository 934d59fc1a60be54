import FlowIndex.Proofs.Flow.Operators
import FlowIndex.Proofs.Index.Fold

namespace FlowIndex

-- The names of structs do not hang on the time of change.
theorem Host.findStruct_eq_none {source name uri path : String} {time : Int} {parser : Parser}
    {ss : List Struct} (ok : structs source uri path time parser = .ok ss)
    (missing : ∀ s ∈ ss, s.name ≠ name) (time' : Int) :
    findStruct source name uri path time' parser = .ok none := by
  rw [structs_eq_map] at ok
  rw [findStruct, structs_eq_map]
  cases package : packageName source path (some uri) parser
  case error =>
    rw [package] at ok
    cases ok
  case ok =>
    rw [package] at ok
    cases ok
    refine congrArg Except.ok <| List.find?_eq_none.mpr fun s mem same => ?_
    obtain ⟨specs, found, rfl⟩ := List.mem_map.mp mem
    exact missing _ (List.mem_map_of_mem found) <| of_decide_eq_true same

namespace Scan

variable {extractor : Extractor} {uri text : String} {found : List Operator × List Fragment}

theorem of_declarations (ok : declarations extractor uri text = .ok found) :
    (Flow.Document.ofText uri text).operators = .ok found.1 ∧
      found.2 = (Flow.Document.ofText uri text).fragments := by
  unfold declarations at ok
  simp only at ok
  split at ok <;> cases ok
  rename_i operators
  exact ⟨operators, rfl⟩

theorem uri_of_mem_operators (ok : declarations extractor uri text = .ok found) :
    ∀ o ∈ found.1, o.uri = uri := by
  intro o mem
  obtain ⟨e, _, read⟩ := Flow.Document.exists_entry (of_declarations ok).1 mem
  exact (Flow.Document.of_operatorOf read).1

-- The numbers of operators were read, so that they can be written.
theorem short_of_mem_operators (ok : declarations extractor uri text = .ok found) :
    ∀ o ∈ found.1, o.sequence.repr.length ≤ Text.digitLimit := by
  intro o mem
  obtain ⟨e, _, read⟩ := Flow.Document.exists_entry (of_declarations ok).1 mem
  exact Flow.Document.short_of_operatorOf read

theorem uri_of_mem_fragments (ok : declarations extractor uri text = .ok found) :
    ∀ f ∈ found.2, f.uri = uri := by
  intro f mem
  rw [(of_declarations ok).2] at mem
  obtain ⟨b, _, rfl⟩ := List.mem_map.mp mem
  rfl

end Scan

namespace Contents

variable {α : Type} {k : Contents} {extractor : Scan.Extractor} {time : String → Int} {uri : String}
  {flows hosts : List String} {before after : Snapshot} {r : RebuildResult}

theorem mem_added {results : List (Except String α)} {a : α} :
    a ∈ added results ↔ .ok a ∈ results := by
  rw [added, List.mem_filterMap]
  constructor
  case mp =>
    rintro ⟨result, mem, found⟩
    cases result <;> cases found
    exact mem
  case mpr => exact fun mem => ⟨_, mem, rfl⟩

theorem mapError_eq_ok_iff {ε ε' : Type} {g : ε → ε'} {result : Except ε α} {a : α} :
    result.mapError g = .ok a ↔ result = .ok a := by
  cases result <;> simp [Except.mapError]

theorem flow_eq_ok_iff {found : List Operator × List Fragment} : k.flow extractor uri = .ok found ↔
    ∃ text, k.read uri = .ok text ∧ Scan.declarations extractor uri text = .ok found := by
  unfold flow
  cases k.read uri
  case error => simp
  case ok text => simp [mapError_eq_ok_iff]

theorem host_eq_ok_iff {ss : List Struct} : k.host extractor time uri = .ok ss ↔
    ∃ text, k.read uri = .ok text ∧ structs extractor uri text (time uri) = .ok ss := by
  unfold host
  cases k.read uri
  case error => simp
  case ok text => simp [mapError_eq_ok_iff]

namespace Rebuilt

theorem mem_operators_iff (h : k.Rebuilt extractor time flows hosts before after r) {o : Operator} :
    o ∈ after.operators ↔ ∃ uri ∈ k.listed .flow flows, ∃ text found, k.read uri = .ok text ∧
      Scan.declarations extractor uri text = .ok found ∧ o ∈ found.1 := by
  simp only [h.operators, List.mem_flatMap, mem_added, List.mem_map, flow_eq_ok_iff]
  grind

theorem mem_fragments_iff (h : k.Rebuilt extractor time flows hosts before after r) {f : Fragment} :
    f ∈ after.fragments ↔ ∃ uri ∈ k.listed .flow flows, ∃ text found, k.read uri = .ok text ∧
      Scan.declarations extractor uri text = .ok found ∧ f ∈ found.2 := by
  simp only [h.fragments, List.mem_flatMap, mem_added, List.mem_map, flow_eq_ok_iff]
  grind

theorem mem_structs_iff (h : k.Rebuilt extractor time flows hosts before after r) {s : Struct} :
    s ∈ after.structs ↔ ∃ uri ∈ k.listed .host hosts, ∃ text ss, k.read uri = .ok text ∧
      Contents.structs extractor uri text (time uri) = .ok ss ∧ s ∈ ss := by
  simp only [h.structs, List.mem_flatten, mem_added, List.mem_map, host_eq_ok_iff]
  grind

end Rebuilt

end Contents

end FlowIndex
