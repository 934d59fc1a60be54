import FlowIndex.Proofs.Flow.Declared
import FlowIndex.Proofs.Naming
import FlowIndex.Proofs.Store.Tree
import FlowIndex.Proofs.Text.Run
import FlowIndex.Watcher

namespace FlowIndex

variable {name : List Char} {kind : DocumentKind} {uri : String} {p q : Path} {f : FileStore}
  {rest : List String} {node : Node} {bytes : List UInt8} {time : Int}

namespace Path

theorem suffix_iff {ending : List Char} (dot : '.' ∉ ending) : '.' :: ending <:+ name ↔
    name.reverse.takeWhile (· ≠ '.') = ending.reverse ∧ ending.length < name.length := by
  constructor
  case mp =>
    rintro ⟨before, rfl⟩
    have plain : ∀ c ∈ ending.reverse, decide (c ≠ '.') = true := by
      intro c mem
      rw [List.mem_reverse] at mem
      exact decide_eq_true fun same => dot <| same ▸ mem
    have stops : ∀ c ∈ ('.' :: before.reverse).head?, decide (c ≠ '.') = false := by
      rintro _ ⟨⟩
      decide
    have reversed : (before ++ '.' :: ending).reverse = ending.reverse ++ '.' :: before.reverse := by
      simp
    rw [reversed, (Text.takeWhile_dropWhile plain stops).1, List.length_append, List.length_cons]
    exact ⟨rfl, by omega⟩
  case mpr =>
    rintro ⟨tail, shorter⟩
    have split := List.takeWhile_append_dropWhile (p := (· ≠ '.')) (l := name.reverse)
    have stops : ∀ c ∈ (name.reverse.dropWhile (· ≠ '.')).head?, decide (c ≠ '.') = false :=
      Text.head_dropWhile
    rw [tail] at split
    cases behind : name.reverse.dropWhile (· ≠ '.')
    case nil =>
      have length := congrArg List.length split
      simp only [behind, List.append_nil, List.length_reverse] at length
      omega
    case cons c cs =>
      rw [behind] at split stops
      obtain rfl : c = '.' := by simpa using stops c rfl
      refine ⟨cs.reverse, ?_⟩
      rw [← List.reverse_reverse name, ← split]
      simp

theorem suffixOf_eq_iff {ending : List Char} (some : ending ≠ []) (dot : '.' ∉ ending) :
    suffixOf name = '.' :: ending ↔ '.' :: ending <:+ name ∧ name ≠ '.' :: ending := by
  constructor
  case mp =>
    intro same
    rw [suffix_iff dot]
    unfold suffixOf at same
    extract_lets tail at same
    split at same
    case isFalse => cases same
    case isTrue long =>
      obtain ⟨-, rfl⟩ := List.cons.inj same
      simp only [Bool.and_eq_true, decide_eq_true_eq] at long
      rw [List.reverse_reverse, List.length_reverse]
      refine ⟨⟨rfl, by omega⟩, fun bare => ?_⟩
      rw [bare, List.length_cons, List.length_reverse] at long
      omega
  case mpr =>
    rintro ⟨suffix, longer⟩
    have tail := (suffix_iff dot |>.mp suffix).1
    have less : ending.length + 1 < name.length :=
      Nat.lt_of_le_of_ne suffix.length_le fun same => longer (suffix.eq_of_length same).symm
    simp only [suffixOf, tail, List.length_reverse, List.isEmpty_reverse, List.reverse_reverse]
    rw [if_pos]
    simp [less, some]

end Path

namespace DocumentKind

theorem ofPath?_eq_some_iff : ofPath? p = some kind ↔ p.suffix = kind.suffix := by
  unfold ofPath? ofSuffix?
  have different : DocumentKind.host.suffix ≠ DocumentKind.flow.suffix := by decide
  cases kind <;> grind

-- A suffix alone is a name without one.
theorem ofPath?_eq_none (bare : p.name = kind.suffix) : ofPath? p = none := by
  rw [ofPath?, Path.suffix, bare]
  cases kind <;> decide

theorem endsWith_iff : p.name.endsWith kind.suffix = true ↔
    p.name = kind.suffix ∨ ofPath? p = some kind := by
  obtain ⟨ending, text, some, dot⟩ :
      ∃ ending, kind.suffix.toList = '.' :: ending ∧ ending ≠ [] ∧ '.' ∉ ending := by
    cases kind
    case flow => exact ⟨_, rfl, by decide, by decide⟩
    case host => exact ⟨_, rfl, by decide, by decide⟩
  have suffix : p.suffix = kind.suffix ↔ Path.suffixOf p.name.toList = '.' :: ending := by
    rw [← String.toList_inj, text, Path.suffix, String.toList_ofList]
  rw [ofPath?_eq_some_iff, suffix, Path.suffixOf_eq_iff some dot, ← String.toList_inj, text]
  have ends : p.name.endsWith kind.suffix = true ↔ '.' :: ending <:+ p.name.toList := by
    rw [← text, String.endsWith, String.Slice.endsWith_string_iff, String.copy_toSlice]
  rw [ends]
  constructor
  case mp =>
    intro suffix
    by_cases bare : p.name.toList = '.' :: ending
    case pos => exact .inl bare
    case neg => exact .inr ⟨suffix, bare⟩
  case mpr =>
    rintro (bare | ⟨suffix, -⟩)
    case inl => exact bare ▸ List.suffix_rfl
    case inr => exact suffix

end DocumentKind

namespace FileStore

-- Whether a file lies in an excluded directory.
def excludes (f : FileStore) (rest : List String) : Bool :=
  rest.dropLast.any f.excluded.contains

structure WellFormed (f : FileStore) : Prop where
  tree : f.tree.WellFormed
  cwd : f.tree.node? f.cwd = some .directory
  root : f.root.Resolved

-- A file below the root.
structure HasFile (f : FileStore) (rest : List String) : Prop where
  below : rest ≠ []
  file : ∃ bytes time, f.tree.node? (f.root.under rest).parts = some (.file bytes time)

theorem kindOf_ofPath (h : p.Resolved) : kindOf (Uri.ofPath p) = .ok (DocumentKind.ofPath? p) := by
  rw [kindOf, Uri.toPath_ofPath h]
  rfl

theorem name_under (below : rest ≠ []) : (f.root.under rest).name = rest.getLastD "" := by
  simp [Path.name, Path.under, List.getLastD_eq_getLast?, List.getLast?_append,
    List.getLast?_eq_some_getLast below]

section Listing

variable {parts : List String}

theorem mem_listed_iff : parts ∈ f.listed kind ↔
    ∃ node rest, (parts, node) ∈ f.tree.nodes ∧ rest ≠ [] ∧
      Path.below? f.root ⟨.root, parts⟩ = some rest ∧ f.isListed kind rest node = true := by
  simp only [listed, List.mem_mergeSort, List.mem_filterMap, Prod.exists]
  constructor
  case mp =>
    rintro ⟨parts', node, mem, found⟩
    split at found
    case h_1 part rest below =>
      split at found
      case isTrue listed =>
        obtain rfl : parts' = parts := Option.some.inj found
        exact ⟨node, part :: rest, mem, by simp, below, listed⟩
      case isFalse => cases found
    case h_2 => cases found
  case mpr =>
    rintro ⟨node, rest, mem, some, below, listed⟩
    refine ⟨parts, node, mem, ?_⟩
    cases rest
    case nil => contradiction
    case cons part rest => simp [below, listed]

theorem HasFile.node?_eq (file : f.HasFile rest) (h : f.WellFormed) :
    ∃ bytes time, (⟨.root, (f.root.under rest).parts⟩ : Path) = f.root.under rest ∧
      f.tree.node? (f.root.under rest).parts = some (.file bytes time) := by
  obtain ⟨bytes, time, found⟩ := file.file
  refine ⟨bytes, time, ?_, found⟩
  ext1
  case anchor => exact h.root.absolute.symm
  case parts => rfl

theorem HasFile.resolved (file : f.HasFile rest) (h : f.WellFormed) :
    (f.root.under rest).Resolved := by
  obtain ⟨bytes, time, path, found⟩ := file.node?_eq h
  exact path ▸ h.tree.resolved found

theorem mem_list_iff (kind : DocumentKind) (h : f.WellFormed) (listing : f.listing = none)
    (file : f.HasFile rest) :
    ∃ uris, f.list kind = .ok uris ∧
      (Uri.ofPath (f.root.under rest) ∈ uris ↔
        (rest.getLastD "").endsWith kind.suffix = true ∧ f.excludes rest = false) := by
  obtain ⟨bytes, time, path, found⟩ := file.node?_eq h
  have own : Path.below? f.root ⟨.root, (f.root.under rest).parts⟩ = some rest := by
    rw [path, Path.below?_under]
  have listed : f.isListed kind rest (.file bytes time) = true ↔
      (rest.getLastD "").endsWith kind.suffix = true ∧ f.excludes rest = false := by
    simp [isListed, excludes]
  refine ⟨_, by rw [list, listing], ?_⟩
  rw [← listed, List.mem_map]
  constructor
  case mp =>
    rintro ⟨parts, mem, same⟩
    obtain ⟨node, rest', mem, some, below, kept⟩ := mem_listed_iff.mp mem
    have resolved := h.tree.resolved (h.tree.node?_eq mem)
    have same : (⟨.root, parts⟩ : Path) = f.root.under rest :=
      Uri.ofPath_injective resolved (file.resolved h) same
    obtain rfl : parts = (f.root.under rest).parts := congrArg Path.parts same
    obtain rfl : node = .file bytes time := by
      simpa [h.tree.node?_eq mem] using found
    obtain rfl : rest' = rest := by simpa [own] using below.symm
    exact kept
  case mpr =>
    intro kept
    refine ⟨_, mem_listed_iff.mpr ⟨_, rest, ?_, file.below, own, kept⟩, by rw [path]⟩
    exact FileTree.mem_nodes_of_node? found (by simp [Path.under, file.below])

end Listing

section Watching

variable {paths : List String} {batches : List (List String)}

-- The paths that a system can tell of.
def IsChange (text : String) : Prop :=
  ∃ p : Path, p.Resolved ∧ p.NullFree ∧ p.toString = text

theorem mem_documentsOf_iff (w : Watcher) (cwd : Path) (hp : p.Resolved)
    (changes : ∀ text ∈ paths, IsChange text) :
    ∃ uris, w.documentsOf cwd paths = .ok uris ∧
      (Uri.ofPath p ∈ uris ↔ p.toString ∈ paths ∧ w.wants p = true) := by
  have named : ∀ q ∈ (paths.map Path.ofString).filter w.wants,
      Uri.ofFile cwd q = .ok (Uri.ofPath q) := by
    intro q mem
    obtain ⟨text, listed, rfl⟩ := List.mem_map.mp (List.mem_filter.mp mem).1
    obtain ⟨q, resolved, bytes, rfl⟩ := changes text listed
    rw [Path.ofString_toString resolved.wellFormed, Uri.ofFile_eq bytes, resolved.resolve_eq]
  refine ⟨_, by rw [Watcher.documentsOf, Flow.mapM_ok named]; rfl, ?_⟩
  simp only [NameSet.mem_ofList, List.mem_map, List.mem_filter]
  constructor
  case mp =>
    rintro ⟨q, ⟨⟨text, listed, rfl⟩, wanted⟩, same⟩
    obtain ⟨q, resolved, -, rfl⟩ := changes text listed
    rw [Path.ofString_toString resolved.wellFormed] at wanted same
    obtain rfl := Uri.ofPath_injective resolved hp same
    exact ⟨listed, wanted⟩
  case mpr =>
    rintro ⟨listed, wanted⟩
    exact ⟨p, ⟨⟨_, listed, Path.ofString_toString hp.wellFormed⟩, wanted⟩, rfl⟩

theorem mem_reports_iff (w : Watcher) (cwd : Path) (hp : p.Resolved)
    (changes : ∀ paths ∈ batches, ∀ text ∈ paths, IsChange text) :
    ∃ calls, w.reports cwd batches = .ok calls ∧
      ((∃ uris ∈ calls, Uri.ofPath p ∈ uris) ↔
        (∃ paths ∈ batches, p.toString ∈ paths) ∧ w.wants p = true) := by
  induction batches
  case nil => exact ⟨[], rfl, by simp⟩
  case cons paths batches hi =>
    obtain ⟨now, later⟩ := List.forall_mem_cons.mp changes
    obtain ⟨uris, documents, mem⟩ := mem_documentsOf_iff w cwd hp now
    obtain ⟨calls, reported, rest⟩ := hi later
    refine ⟨if uris.isEmpty then calls else uris :: calls, ?_, ?_⟩
    · rw [Watcher.reports, documents, reported]
      rfl
    · have told : (∃ uris' ∈ if uris.isEmpty then calls else uris :: calls, Uri.ofPath p ∈ uris') ↔
          Uri.ofPath p ∈ uris ∨ ∃ uris ∈ calls, Uri.ofPath p ∈ uris := by
        cases uris <;> simp
      rw [told, mem, rest]
      simp only [List.mem_cons, exists_eq_or_imp]
      rw [← or_and_right]

theorem wants_under : (Watcher.mk f.root f.excluded).wants (f.root.under rest) = true ↔
    (∃ kind, DocumentKind.ofPath? (f.root.under rest) = some kind) ∧ f.excludes rest = false := by
  simp [Watcher.wants, Watcher.directoriesOf, Path.below?_under, excludes, Option.isSome_iff_exists]

end Watching

section Reading

theorem systemPath_ofPath (h : p.Resolved) (bytes : p.NullFree) :
    systemPath (Uri.ofPath p) = .ok p := by
  rw [systemPath, Uri.toPath_ofPath h]
  show (if p.toString.toList.contains (Char.ofNat 0) then _ else _) = _
  rw [Path.nullFree_iff.mpr bytes]
  rfl

-- What a reading gives for a document of a kind, whatever its name stands for.
theorem read_eq (supported : kindOf uri = .ok (some kind)) (path : systemPath uri = .ok p) :
    f.read uri = match f.tree.open? f.cwd p with
      | .error e => .error (.unreadable uri e.message)
      | .ok (bytes, time) => match textOf bytes with
        | .error e => .error (.unreadable uri e.message)
        | .ok text => .ok ⟨uri, kind, text, time * nanoseconds⟩ := by
  simp only [read, supported, path, Except.mapError, bind, Except.bind]
  cases f.tree.open? f.cwd p
  case error => rfl
  case ok contents =>
    obtain ⟨bytes, time⟩ := contents
    dsimp only
    cases textOf bytes <;> rfl

theorem read_unsupported (unsupported : kindOf uri = .ok none) :
    f.read uri = .error (.unreadable uri "unsupported file type") := by
  rw [read, unsupported]
  rfl

theorem systemMessage_ne (e : SystemError) : e.message ≠ "unsupported file type" := by
  intro same
  have head := congrArg (·.toList.head?) same
  obtain ⟨cause, path⟩ := e
  cases cause
  all_goals simp only [SystemError.message, SystemCause.text, String.toList_append] at head
  all_goals cases head

theorem decodeMessage_ne (e : Text.DecodeError) : e.message ≠ "unsupported file type" := by
  intro same
  unfold Text.DecodeError.message at same
  extract_lets place at same
  have head := congrArg (·.toList.head?) same
  simp only [String.toList_append] at head
  cases head

theorem read_unsupported_iff (h : p.Resolved) (bytes : p.NullFree) :
    f.read (Uri.ofPath p) = .error (.unreadable (Uri.ofPath p) "unsupported file type") ↔
      kindOf (Uri.ofPath p) = .ok none := by
  refine ⟨fun refused => ?_, read_unsupported⟩
  rw [kindOf_ofPath h]
  cases kind : DocumentKind.ofPath? p
  case none => rfl
  case some kind =>
    rw [read_eq (by rw [kindOf_ofPath h, kind]) (systemPath_ofPath h bytes)] at refused
    split at refused
    case h_1 e _ =>
      exact absurd (Failure.unreadable.inj <| Except.error.inj refused).2 (systemMessage_ne e)
    case h_2 =>
      split at refused
      case h_1 e _ =>
        exact absurd (Failure.unreadable.inj <| Except.error.inj refused).2 (decodeMessage_ne e)
      case h_2 => cases refused

end Reading

-- How the file at the components `rest` below the root is seen, and by which name. The batches are
-- whatever the service that watches the file system puts into them; the filter that it applies itself,
-- which leaves out `.venv`, `__pycache__` and the like, is no part of this.
structure Sees (f : FileStore) (rest : List String) (uri : String) (kind : DocumentKind) :
    Prop where
  -- A listing takes the file for one of the kind by the end of its name,
  listed : ∃ uris, f.list kind = .ok uris ∧ (uri ∈ uris ↔ f.excludes rest = false ∧
    (rest.getLastD "" = kind.suffix ∨ kindOf uri = .ok (some kind)))
  -- although a file that is named by the suffix alone is of no kind,
  bare : rest.getLastD "" = kind.suffix → kindOf uri = .ok none
  -- which a reading refuses,
  read : f.read uri = .error (.unreadable uri "unsupported file type") ↔ kindOf uri = .ok none
  -- and whose changes are not reported.
  reported : ∀ cwd batches, (∀ paths ∈ batches, ∀ text ∈ paths, IsChange text) →
    ∃ calls, (Watcher.mk f.root f.excluded).reports cwd batches = .ok calls ∧
      ((∃ uris ∈ calls, uri ∈ uris) ↔ (∃ paths ∈ batches, (f.root.under rest).toString ∈ paths) ∧
        f.excludes rest = false ∧ ∃ kind, kindOf uri = .ok (some kind))

theorem sees_file (h : f.WellFormed) (listing : f.listing = none) (file : f.HasFile rest)
    (kind : DocumentKind) : f.Sees rest (Uri.ofPath (f.root.under rest)) kind := by
  have resolved := file.resolved h
  have bytes : (f.root.under rest).NullFree := by
    obtain ⟨_, _, path, found⟩ := file.node?_eq h
    exact path ▸ h.tree.nullFree found
  have kindOf_eq := kindOf_ofPath resolved
  have supported (kind : DocumentKind) : kindOf (Uri.ofPath (f.root.under rest)) = .ok (some kind) ↔
      DocumentKind.ofPath? (f.root.under rest) = some kind := by
    simp [kindOf_eq]
  refine ⟨?listed, ?bare, read_unsupported_iff resolved bytes, ?reported⟩
  case listed =>
    obtain ⟨uris, list, mem⟩ := mem_list_iff kind h listing file
    refine ⟨uris, list, ?_⟩
    rw [mem, ← name_under file.below, DocumentKind.endsWith_iff, supported, and_comm]
  case bare =>
    intro bare
    rw [← name_under file.below] at bare
    rw [kindOf_eq, DocumentKind.ofPath?_eq_none bare]
  case reported =>
    intro cwd batches changes
    obtain ⟨calls, reports, mem⟩ :=
      mem_reports_iff ⟨f.root, f.excluded⟩ cwd resolved changes
    refine ⟨calls, reports, ?_⟩
    rw [mem, wants_under]
    simp only [supported]
    rw [and_comm (b := f.excludes rest = false)]

theorem sees_file_dotted :
    let tree : FileTree := ⟨[(["ws"], .directory), (["ws", "a"], .directory),
      (["ws", "a", ".b.go.gorch"], .file [] 1000), (["ws", ".gorch"], .file [] 1000)]⟩
    let f : FileStore := { tree, cwd := ["ws"], root := ⟨.root, ["ws"]⟩, excluded := [".gorch"] }
    (f.WellFormed ∧ f.listing = none ∧ f.HasFile ["a", ".b.go.gorch"]) ∧
      f.Sees ["a", ".b.go.gorch"] "file:///ws/a/.b.go.gorch" .flow := by
  intro tree f
  have wellFormed : f.WellFormed := ⟨by decide, by decide, by decide⟩
  have file : f.HasFile ["a", ".b.go.gorch"] := ⟨by decide, [], 1000, by decide⟩
  have uri : Uri.ofPath (f.root.under ["a", ".b.go.gorch"]) = "file:///ws/a/.b.go.gorch" := by
    decide
  exact ⟨⟨wellFormed, rfl, file⟩, uri ▸ sees_file wellFormed rfl file .flow⟩

-- A file that is named by the suffix alone is listed, but cannot be read, and nobody is told of its
-- changes.
theorem bare_file_listed :
    let tree : FileTree := ⟨[(["ws"], .directory), (["ws", ".gorch"], .file [] 1000)]⟩
    let f : FileStore := { tree, cwd := ["ws"], root := ⟨.root, ["ws"]⟩, excluded := [] }
    f.WellFormed ∧ f.HasFile [".gorch"] ∧ f.excludes [".gorch"] = false ∧
      f.list .flow = .ok ["file:///ws/.gorch"] ∧ kindOf "file:///ws/.gorch" = .ok none ∧
      f.read "file:///ws/.gorch" =
        .error (.unreadable "file:///ws/.gorch" "unsupported file type") ∧
      (Watcher.mk f.root f.excluded).reports ⟨.root, ["ws"]⟩ [["/ws/.gorch"]] = .ok [] := by
  intro tree f
  refine ⟨⟨by decide, by decide, by decide⟩, ⟨by decide, [], 1000, by decide⟩, by decide, ?_⟩
  refine ⟨?_, ?_, ?_, ?_⟩
  all_goals decide +kernel

end FileStore

end FlowIndex
