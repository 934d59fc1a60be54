import FlowIndex.Proofs.Store.Files

namespace FlowIndex

variable {f : FileStore} {p : Path} {uri : String} {rest : List String} {kind : DocumentKind}
  {node : Node} {bytes : List UInt8} {time : Int}

-- The URIs that paths are given.
def Uri.Canonical (uri : String) : Prop :=
  ∃ p : Path, p.Resolved ∧ ofPath p = uri

namespace FileStore

-- The path that a name stands for leads to the file at the components `rest` below the root.
def LeadsTo (f : FileStore) (uri : String) (rest : List String) : Prop :=
  ∃ p, systemPath uri = .ok p ∧ Path.resolve ⟨.root, f.cwd⟩ p = f.root.under rest ∧
    ∃ bytes time, f.tree.follow f.cwd p = .ok (.file bytes time)

-- What a reading finds at the components `rest` below the root.
def found (f : FileStore) (rest : List String) : Except String (DocumentKind × String × Int) :=
  match DocumentKind.ofPath? (f.root.under rest), f.tree.node? (f.root.under rest).parts with
  | none, _ => .error "unsupported file type"
  | some kind, some (.file bytes time) =>
    match textOf bytes with
    | .error e => .error e.message
    | .ok text => .ok (kind, text, time * nanoseconds)
  | some _, _ => .error ""

-- What is found, told of a document with a name.
def toldOf (uri : String) : Except String (DocumentKind × String × Int) →
    Except Failure SourceDocument
  | .error reason => .error (.unreadable uri reason)
  | .ok (kind, text, revision) => .ok ⟨uri, kind, text, revision⟩

theorem toPath_of_systemPath (path : systemPath uri = .ok p) : Uri.toPath uri = .ok p := by
  unfold systemPath at path
  cases read : Uri.toPath uri
  case error => rw [read] at path; cases path
  case ok q =>
    rw [read] at path
    simp only [bind, Except.bind] at path
    split at path
    case isTrue => cases path
    case isFalse => exact path

theorem walk_of_follow (followed : f.tree.follow f.cwd p = .ok node) :
    f.tree.walk (if p.isAbsolute then [] else f.cwd) p.parts = .ok node := by
  unfold FileTree.follow at followed
  extract_lets walked at followed
  have same : walked = .ok node := by
    cases h : walked <;> rw [h] at followed <;> cases followed
    rfl
  unfold walked at same
  split at same
  case isTrue => cases same
  case isFalse => exact same

theorem start_of_path (h : f.WellFormed) (p : Path) :
    f.tree.node? (if p.isAbsolute then [] else f.cwd) = some .directory ∧
      (Path.resolve ⟨.root, f.cwd⟩ p).parts =
        Path.normalizeParts (if p.isAbsolute then [] else f.cwd).reverse p.parts := by
  unfold Path.resolve Path.join
  split
  case isTrue => exact ⟨rfl, rfl⟩
  case isFalse =>
    have down : ".." ∉ f.cwd := (h.tree.resolved h.cwd).down
    refine ⟨h.cwd, ?_⟩
    rw [Path.normalizeParts_prefix down, List.append_nil]

theorem name_of_follow (h : f.WellFormed)
    (followed : f.tree.follow f.cwd p = .ok (.file bytes time)) :
    (Path.resolve ⟨.root, f.cwd⟩ p).name = p.name ∧
      f.tree.node? (Path.resolve ⟨.root, f.cwd⟩ p).parts = some (.file bytes time) := by
  obtain ⟨directory, parts⟩ := start_of_path h p
  have walked := walk_of_follow followed
  have some : p.parts ≠ [] := by
    intro none
    rw [none] at walked
    cases directory.symm.trans (FileTree.walk_nil walked)
  have last := h.tree.last_of_walk some walked
  rw [← parts] at last
  refine ⟨?_, ?_⟩
  · rw [Path.name, Path.name, List.getLastD_eq_getLast?, List.getLastD_eq_getLast?, last]
  · rw [parts]
    exact FileTree.node?_of_walk walked

-- The text that is read does not depend on the name that led to the file.
theorem LeadsTo.read_eq (h : f.WellFormed) (leads : f.LeadsTo uri rest) :
    f.read uri = toldOf uri (f.found rest) := by
  obtain ⟨p, path, resolved, bytes, time, followed⟩ := leads
  obtain ⟨name, node⟩ := name_of_follow h followed
  have opened : f.tree.open? f.cwd p = .ok (bytes, time) := by
    rw [FileTree.open?, followed]
    rfl
  have supported : kindOf uri = .ok (DocumentKind.ofPath? (f.root.under rest)) := by
    rw [kindOf, toPath_of_systemPath path, ← resolved]
    show Except.ok (DocumentKind.ofSuffix? p.suffix) = _
    rw [DocumentKind.ofPath?, Path.suffix, Path.suffix, name]
  rw [resolved] at node
  unfold found
  rw [node]
  cases kind : DocumentKind.ofPath? (f.root.under rest)
  case none => exact read_unsupported (supported.trans (by rw [kind]))
  case some kind =>
    rw [FileStore.read_eq (supported.trans (by rw [kind])) path, opened]
    dsimp only
    cases textOf bytes <;> rfl

-- A canonical name leads to nothing but the file that has it.
theorem LeadsTo.eq_of_canonical (leads : f.LeadsTo uri rest) (canonical : Uri.Canonical uri) :
    uri = Uri.ofPath (f.root.under rest) := by
  obtain ⟨p, path, resolved, -⟩ := leads
  obtain ⟨q, own, rfl⟩ := canonical
  obtain rfl : q = p := by
    have read := toPath_of_systemPath path
    rw [Uri.toPath_ofPath own] at read
    exact Except.ok.inj read
  rw [← resolved, own.resolve_eq]

-- Listings use canonical names only.
theorem canonical_of_list (h : f.WellFormed) {uris : List String} (list : f.list kind = .ok uris) :
    ∀ uri ∈ uris, Uri.Canonical uri := by
  intro uri mem
  unfold FileStore.list at list
  split at list
  case h_1 => cases list
  case h_2 =>
    cases list
    obtain ⟨parts, listed, rfl⟩ := List.mem_map.mp mem
    obtain ⟨node, _, mem, _⟩ := mem_listed_iff.mp listed
    exact ⟨_, h.tree.resolved (h.tree.node?_eq mem), rfl⟩

end FileStore

end FlowIndex
