import FlowIndex.Host.Struct
import FlowIndex.Proofs.Uri
import FlowIndex.Session.Request
import FlowIndex.Store.Files

namespace FlowIndex

variable {p q cwd root : Path} {s uri : String} {ps rest : List String} {c : Config} {f : FileStore}

namespace Uri

theorem unlinked_eq (h : p.NullFree) : unlinked cwd p = .ok (Path.resolve cwd p) := by
  rw [unlinked, Path.nullFree_iff.mpr h]
  rfl

theorem unlinked_eq_error (h : ¬p.NullFree) : unlinked cwd p = .error .nullByte := by
  rw [← Path.nullFree_iff, Bool.not_eq_false] at h
  rw [unlinked, if_pos h]

theorem ofFile_eq (h : p.NullFree) : ofFile cwd p = .ok (ofPath (Path.resolve cwd p)) := by
  rw [ofFile, unlinked_eq h]
  rfl

theorem eq_ofPath_of_ofFile (h : ofFile cwd p = .ok uri) : uri = ofPath (Path.resolve cwd p) := by
  unfold ofFile unlinked at h
  split at h
  case isTrue => cases h
  case isFalse => exact (Except.ok.inj h).symm

-- A root and a store of the files below it.
structure Rooted (c : Config) (f : FileStore) : Prop where
  cwd : c.cwd.WellFormed
  root : c.root.WellFormed
  bytes : c.root.NullFree
  store : f.root = Path.resolve c.cwd c.root

theorem Rooted.resolved (h : Rooted c f) : f.root.Resolved := by
  rw [h.store]
  exact Path.resolved_resolve h.cwd h.root

section Below

variable (hp : (f.root.under rest).Resolved)
include hp

theorem wellFormed_of_under : (⟨.relative, rest⟩ : Path).WellFormed :=
  fun part mem => hp.wellFormed part (List.mem_append_right _ mem)

theorem relativePath_ofPath :
    f.relativePath (ofPath (f.root.under rest)) = .ok (Path.toString ⟨.relative, rest⟩) := by
  rw [FileStore.relativePath, toPath_ofPath hp]
  show Except.ok (Path.relativeTo _ _).toString = _
  rw [Path.relativeTo_under]

theorem documentUri_relative (h : Rooted c f) (some : rest ≠ [])
    (bytes : (f.root.under rest).NullFree) :
    Request.documentUri c (Path.toString ⟨.relative, rest⟩) = .ok (ofPath (f.root.under rest)) := by
  have parts : (⟨.relative, rest⟩ : Path).WellFormed := wellFormed_of_under hp
  have own : (⟨.relative, rest⟩ : Path).NullFree :=
    fun part mem => bytes part (List.mem_append_right _ mem)
  have down : ".." ∉ rest := fun mem => hp.down (List.mem_append_right _ mem)
  rw [Request.documentUri, Path.startsWith_file parts some, Path.ofString_toString parts]
  show ofFile _ _ = _
  rw [ofFile_eq (h.bytes.join own), Path.resolve_join down, ← h.store]

theorem directoryName_ofPath (some : rest ≠ []) :
    Host.directoryName (Path.toString ⟨.relative, rest⟩) (.some (ofPath (f.root.under rest))) =
      .ok (f.root.under rest).parent.name := by
  have text : Path.ofString (Path.toString ⟨.relative, rest⟩) = ⟨.relative, rest⟩ :=
    Path.ofString_toString (wellFormed_of_under hp)
  have directory : (Path.parent ⟨.relative, rest⟩).WellFormed :=
    fun part mem => wellFormed_of_under hp part (List.dropLast_subset rest mem)
  unfold Host.directoryName
  rw [text]
  dsimp only
  split
  case h_1 uri unnamed same =>
    cases same
    rw [decodedPath_ofPath hp]
    show Except.ok (Path.ofString _).parent.name = _
    rw [Path.ofString_toString hp.wellFormed]
  case h_2 named =>
    have inside : rest.dropLast ≠ [] :=
      fun top => named _ (directory.name_eq_empty_iff.mpr top) rfl
    have parent : (f.root.under rest).parent = f.root.under rest.dropLast := by
      simp [Path.parent, Path.under, List.dropLast_append_of_ne_nil some]
    rw [parent]
    simp [Path.parent, Path.name, Path.under, List.getLastD_eq_getLast?, List.getLast?_append,
      List.getLast?_eq_some_getLast inside]

end Below

-- What the names of a path have to do with each other.
structure Names (p : Path) (uri : String) : Prop where
  -- The URI stands for the path, and the path for the URI.
  path : toPath uri = .ok p
  back : ∀ cwd, ofFile cwd p = .ok uri
  -- All that has this URI is this path.
  injective : ∀ cwd q : Path, cwd.WellFormed → q.WellFormed → ofFile cwd q = .ok uri →
    Path.resolve cwd q = p
  -- Only the top directory has no name.
  fileName : Uri.fileName uri = .ok (if p.parts = [] then uri else p.name)
  below : ∀ c f rest, Rooted c f → rest ≠ [] → p = f.root.under rest →
    ∃ path, f.relativePath uri = .ok path ∧ Request.documentUri c path = .ok uri ∧
      Host.directoryName path (some uri) = .ok p.parent.name

-- The names of every path that starts at the top.
theorem names_resolve (cwd : Path) (s : String) (absolute : (Path.ofString s).isAbsolute = true)
    (bytes : Char.ofNat 0 ∉ s.toList) :
    ∃ uri, ofFile cwd (.ofString s) = .ok uri ∧ Names (Path.resolve cwd (.ofString s)) uri := by
  have read : (Path.ofString s).WellFormed := Path.wellFormed_ofString s
  have given : (Path.ofString s).NullFree := Path.nullFree_ofString bytes
  have resolved : (Path.resolve cwd (.ofString s)).Resolved :=
    Path.resolved_resolve_of_isAbsolute read absolute
  have plain : (Path.resolve cwd (.ofString s)).NullFree :=
    Path.nullFree_resolve_of_isAbsolute given absolute
  refine ⟨_, ofFile_eq given, ?_⟩
  generalize Path.resolve cwd (.ofString s) = p at resolved plain
  exact
    { path := toPath_ofPath resolved
      back := fun cwd => by rw [ofFile_eq plain, resolved.resolve_eq]
      injective := fun cwd q hcwd hq same =>
        ofPath_injective (Path.resolved_resolve hcwd hq) resolved (eq_ofPath_of_ofFile same).symm
      fileName := fileName_ofPath resolved
      below := by
        rintro c f rest rooted some rfl
        exact ⟨_, relativePath_ofPath resolved, documentUri_relative resolved rooted some plain,
          directoryName_ofPath resolved some⟩ }

-- A path of reserved characters, seen from a root that lies in the working directory.
theorem names_resolve_reserved :
    (Path.ofString "/ws//a/../%25#?;\nä.go").isAbsolute = true ∧
    Char.ofNat 0 ∉ "/ws//a/../%25#?;\nä.go".toList ∧
    ∃ uri, ofFile ⟨.root, ["tmp"]⟩ (.ofString "/ws//a/../%25#?;\nä.go") = .ok uri ∧
      Names ⟨.root, ["ws", "%25#?;\nä.go"]⟩ uri ∧
      ∃ path, Host.directoryName path (some uri) = .ok "ws" ∧
        Request.documentUri
          ⟨⟨.relative, ["ws"]⟩, ⟨.root, []⟩, [], ⟨0, false⟩, none, [], [], .standard⟩ path =
          .ok uri := by
  have absolute : (Path.ofString "/ws//a/../%25#?;\nä.go").isAbsolute = true := by decide
  have bytes : Char.ofNat 0 ∉ "/ws//a/../%25#?;\nä.go".toList := by decide
  obtain ⟨uri, same, names⟩ := names_resolve ⟨.root, ["tmp"]⟩ _ absolute bytes
  have rooted : Rooted ⟨⟨.relative, ["ws"]⟩, ⟨.root, []⟩, [], ⟨0, false⟩, none, [], [], .standard⟩
      ⟨⟨[]⟩, [], ⟨.root, ["ws"]⟩, [], none⟩ :=
    ⟨by decide, by decide, by decide, by decide⟩
  obtain ⟨path, _, back, directory⟩ :=
    names.below _ _ ["%25#?;\nä.go"] rooted (by decide) (by decide)
  exact ⟨absolute, bytes, uri, same, names, path, directory, back⟩

end Uri

end FlowIndex
