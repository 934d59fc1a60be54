import FlowIndex.Path

namespace FlowIndex.Path

variable {p q root cwd : Path} {s : String} {cs ds piece : List Char}
  {ps qs done rest : List String}

-- What can stand between two slashes of a path that was read.
structure IsPart (s : String) : Prop where
  nonempty : s ≠ ""
  here : s ≠ "."
  slash : '/' ∉ s.toList

theorem isPart_iff : IsPart s ↔ s ≠ "" ∧ s ≠ "." ∧ '/' ∉ s.toList :=
  ⟨fun ⟨nonempty, here, slash⟩ => ⟨nonempty, here, slash⟩,
    fun ⟨nonempty, here, slash⟩ => ⟨nonempty, here, slash⟩⟩

instance : DecidablePred IsPart :=
  fun _ => decidable_of_iff' _ isPart_iff

def WellFormed (p : Path) : Prop :=
  ∀ part ∈ p.parts, IsPart part

instance : DecidablePred WellFormed :=
  fun p => inferInstanceAs (Decidable (∀ part ∈ p.parts, IsPart part))

-- A path that leads from the top directory down.
structure Resolved (p : Path) : Prop where
  absolute : p.anchor = .root
  wellFormed : p.WellFormed
  down : ".." ∉ p.parts

instance : DecidablePred Resolved :=
  fun p => decidable_of_iff (p.anchor = .root ∧ p.WellFormed ∧ ".." ∉ p.parts)
    ⟨fun ⟨absolute, wellFormed, down⟩ => ⟨absolute, wellFormed, down⟩,
      fun ⟨absolute, wellFormed, down⟩ => ⟨absolute, wellFormed, down⟩⟩

theorem WellFormed.name_eq_empty_iff (h : p.WellFormed) : p.name = "" ↔ p.parts = [] := by
  constructor
  case mp =>
    intro unnamed
    refine Classical.byContradiction fun some => ?_
    rw [name, List.getLastD_eq_getLast?, List.getLast?_eq_some_getLast some] at unnamed
    exact (h _ (List.getLast_mem some)).nonempty unnamed
  case mpr =>
    intro none
    rw [name, none]
    rfl

section Pieces

theorem pieces_slash (cs : List Char) : pieces ('/' :: cs) = [] :: pieces cs := by
  simp [pieces]

theorem pieces_of_notMem (h : '/' ∉ cs) : pieces cs = [cs] := by
  induction cs
  case nil => rfl
  case cons c cs hi =>
    simp only [List.mem_cons, not_or] at h
    rw [pieces, if_neg (Ne.symm h.1), hi h.2]

theorem pieces_append (h : '/' ∉ cs) : pieces (cs ++ '/' :: ds) = cs :: pieces ds := by
  induction cs
  case nil => exact pieces_slash ds
  case cons c cs hi =>
    simp only [List.mem_cons, not_or] at h
    rw [List.cons_append, pieces, if_neg (Ne.symm h.1), hi h.2]

theorem pieces_intercalate {cs : List Char} {css : List (List Char)}
    (plain : ∀ piece ∈ cs :: css, '/' ∉ piece) :
    pieces (['/'].intercalate (cs :: css)) = cs :: css := by
  induction css generalizing cs
  case nil => simpa using pieces_of_notMem (plain cs List.mem_cons_self)
  case cons ds css hi =>
    obtain ⟨own, others⟩ := List.forall_mem_cons.mp plain
    rw [List.intercalate_cons_cons, List.append_assoc, List.singleton_append, pieces_append own,
      hi others]

theorem slash_notMem (mem : piece ∈ pieces cs) : '/' ∉ piece := by
  induction cs generalizing piece
  case nil => simp_all [pieces]
  case cons c cs hi =>
    unfold pieces at mem
    split at mem
    case isTrue =>
      obtain rfl | mem := List.mem_cons.mp mem
      case inl => simp
      case inr => exact hi mem
    case isFalse other =>
      split at mem
      case h_1 => simpa [List.mem_singleton.mp mem] using Ne.symm other
      case h_2 first others same =>
        rw [same] at hi
        obtain rfl | mem := List.mem_cons.mp mem
        case inl => simpa [Ne.symm other] using hi List.mem_cons_self
        case inr => exact hi (List.mem_cons_of_mem _ mem)

theorem wellFormed_ofString (s : String) : (ofString s).WellFormed := by
  intro part mem
  obtain ⟨piece, kept, rfl⟩ := List.mem_map.mp mem
  obtain ⟨mem, kept⟩ := List.mem_filter.mp kept
  simp only [ne_eq, Bool.and_eq_true, decide_eq_true_eq] at kept
  refine ⟨?nonempty, ?here, ?slash⟩
  case nonempty => simpa using kept.1
  case here => exact fun same => kept.2 <| by rw [← String.toList_ofList (l := piece), same]; rfl
  case slash => simpa using slash_notMem mem

end Pieces

section Text

-- The components of a path with slashes between them.
def body (ps : List String) : List Char :=
  ['/'].intercalate (ps.map String.toList)

theorem toList_toString (h : ¬(p.anchor = .relative ∧ p.parts = [])) :
    p.toString.toList = p.anchor.text.toList ++ body p.parts := by
  obtain ⟨anchor, parts⟩ := p
  cases anchor <;> cases parts
  case relative.nil => simp at h
  all_goals simp [toString, body]

theorem parts_ofString_slash (cs : List Char) :
    (ofString (String.ofList ('/' :: cs))).parts = (ofString (String.ofList cs)).parts := by
  simp [ofString, pieces_slash]

theorem pieces_body (h : ∀ part ∈ ps, IsPart part) (some : ps ≠ []) :
    pieces (body ps) = ps.map String.toList := by
  cases ps
  case nil => contradiction
  case cons part rest =>
    rw [body, List.map_cons]
    refine pieces_intercalate ?_
    simpa using ⟨(h part List.mem_cons_self).slash,
      fun part mem => (h part (List.mem_cons_of_mem _ mem)).slash⟩

theorem parts_ofString_body (h : ∀ part ∈ ps, IsPart part) :
    (ofString (String.ofList (body ps))).parts = ps := by
  by_cases some : ps = []
  case pos =>
    subst some
    rfl
  case neg =>
    have kept : ∀ piece ∈ ps.map String.toList, piece ≠ [] ∧ piece ≠ ['.'] := by
      intro piece mem
      obtain ⟨part, listed, rfl⟩ := List.mem_map.mp mem
      have named := h part listed
      exact ⟨by simpa using named.nonempty, fun same => named.here <| String.toList_injective same⟩
    simp only [ofString, String.toList_ofList]
    rw [pieces_body h some, List.filter_eq_self.mpr (by simpa using kept)]
    simp

theorem head_body (h : ∀ part ∈ ps, IsPart part) : (body ps).head? ≠ some '/' := by
  cases ps
  case nil => simp [body]
  case cons part rest =>
    have named := h part List.mem_cons_self
    have body_eq : ∃ behind, body (part :: rest) = part.toList ++ behind := by
      cases rest
      case nil => exact ⟨[], by simp [body]⟩
      case cons =>
        exact ⟨_, by rw [body, List.map_cons, List.map_cons, List.intercalate_cons_cons,
          List.append_assoc]⟩
    obtain ⟨behind, body_eq⟩ := body_eq
    rw [body_eq]
    cases cs : part.toList
    case nil => exact absurd (by simpa using cs) named.nonempty
    case cons c cs =>
      have slash := named.slash
      simp_all
      exact fun h => slash.1 h.symm

theorem anchorOf_of_head (h : cs.head? ≠ some '/') : anchorOf cs = .relative := by
  unfold anchorOf
  split <;> simp_all

theorem anchorOf_slash (h : cs.head? ≠ some '/') : anchorOf ('/' :: cs) = .root := by
  unfold anchorOf
  split <;> simp_all

theorem anchorOf_slashes (h : cs.head? ≠ some '/') : anchorOf ('/' :: '/' :: cs) = .doubleRoot := by
  unfold anchorOf
  grind

theorem ofString_toString (h : p.WellFormed) : ofString p.toString = p := by
  by_cases empty : p.anchor = .relative ∧ p.parts = []
  case pos =>
    obtain ⟨anchor, parts⟩ := p
    obtain ⟨rfl, rfl⟩ := empty
    rfl
  case neg =>
    have text := toList_toString empty
    have text' : p.toString = String.ofList (p.anchor.text.toList ++ body p.parts) := by
      rw [← text, String.ofList_toList]
    have head := head_body h
    have parts := parts_ofString_body h
    ext1
    case anchor =>
      rw [ofString, text]
      cases anchor : p.anchor
      case relative => exact anchorOf_of_head head
      case root => exact anchorOf_slash head
      case doubleRoot => exact anchorOf_slashes head
    case parts =>
      rw [text']
      cases anchor : p.anchor
      case relative => exact parts
      case root => exact (parts_ofString_slash _).trans parts
      case doubleRoot =>
        exact (parts_ofString_slash _).trans <| (parts_ofString_slash _).trans parts

end Text

section Resolving

theorem normalizeParts_cons (h : s ≠ "..") :
    normalizeParts done (s :: ps) = normalizeParts (s :: done) ps := by
  rw [normalizeParts]
  exact h

theorem mem_of_mem_normalizeParts (mem : s ∈ normalizeParts done ps) : s ∈ done ∨ s ∈ ps := by
  fun_induction normalizeParts done ps
  case case1 => simpa using mem
  case case2 hi => exact (hi mem).imp List.mem_of_mem_tail (List.mem_cons_of_mem _)
  case case3 hi =>
    have := hi mem
    grind

theorem up_notMem_normalizeParts (h : ".." ∉ done) : ".." ∉ normalizeParts done ps := by
  fun_induction normalizeParts done ps
  case case1 => simpa using h
  case case2 hi => exact hi fun mem => h (List.mem_of_mem_tail mem)
  case case3 other hi => exact hi <| by simpa using ⟨Ne.symm other, h⟩

-- Components without `..` are only added to those read so far.
theorem normalizeParts_append (h : ".." ∉ qs) :
    normalizeParts done (ps ++ qs) = normalizeParts done ps ++ qs := by
  fun_induction normalizeParts done ps
  case case1 done =>
    induction qs generalizing done
    case nil => simp [normalizeParts]
    case cons part qs hi =>
      simp only [List.mem_cons, not_or] at h
      have := hi h.2 (part :: done)
      rw [List.nil_append] at this ⊢
      rw [normalizeParts_cons (Ne.symm h.1), this]
      simp
  case case2 hi => exact hi
  case case3 part ps other hi =>
    rw [List.cons_append, normalizeParts_cons other, hi]

theorem normalizeParts_prefix (h : ".." ∉ qs) :
    normalizeParts done (qs ++ ps) = normalizeParts (qs.reverse ++ done) ps := by
  induction qs generalizing done
  case nil => rfl
  case cons part qs hi =>
    simp only [List.mem_cons, not_or] at h
    rw [List.cons_append, normalizeParts_cons (Ne.symm h.1), hi h.2]
    simp

theorem WellFormed.join (hp : p.WellFormed) (hq : q.WellFormed) : (p.join q).WellFormed := by
  unfold Path.join
  split
  case isTrue => exact hq
  case isFalse => exact List.forall_mem_append.mpr ⟨hp, hq⟩

theorem resolved_resolve (hcwd : cwd.WellFormed) (hp : p.WellFormed) : (resolve cwd p).Resolved where
  absolute := rfl
  wellFormed part mem := by
    obtain mem | mem := mem_of_mem_normalizeParts mem
    case inl => cases mem
    case inr => exact hcwd.join hp part mem
  down := up_notMem_normalizeParts List.not_mem_nil

theorem Resolved.isAbsolute (h : p.Resolved) : p.isAbsolute = true := by
  simp [Path.isAbsolute, h.absolute]

theorem join_of_isAbsolute (h : p.isAbsolute = true) : cwd.join p = p := by
  simp [join, h]

theorem resolve_of_isAbsolute (h : p.isAbsolute = true) (cwd' : Path) :
    resolve cwd p = resolve cwd' p := by
  simp [resolve, join_of_isAbsolute h]

theorem isAbsolute_join (h : p.isAbsolute = true) : (p.join q).isAbsolute = true := by
  unfold join
  split
  case isTrue absolute => exact absolute
  case isFalse => exact h

theorem resolve_join_of_isAbsolute (h : p.isAbsolute = true) :
    resolve cwd (p.join q) = resolve p q := by
  rw [resolve_of_isAbsolute (isAbsolute_join h) p, resolve, resolve,
    join_of_isAbsolute (isAbsolute_join h)]

theorem resolved_resolve_of_isAbsolute (hp : p.WellFormed) (h : p.isAbsolute = true) :
    (resolve cwd p).Resolved := by
  rw [resolve_of_isAbsolute h p]
  exact resolved_resolve hp hp

theorem Resolved.resolve_eq (h : p.Resolved) (cwd : Path) : resolve cwd p = p := by
  have parts : normalizeParts [] ([] ++ p.parts) = normalizeParts [] [] ++ p.parts :=
    normalizeParts_append h.down
  ext1
  case anchor => exact h.absolute.symm
  case parts => simpa [resolve, join_of_isAbsolute h.isAbsolute, normalizeParts] using parts

end Resolving

section Below

-- The path that lies at some components below another one.
def under (root : Path) (rest : List String) : Path :=
  { root with parts := root.parts ++ rest }

theorem below?_under : below? root (root.under rest) = some rest := by
  simp [below?, under]

theorem relativeTo_under : relativeTo root (root.under rest) = ⟨.relative, rest⟩ := by
  simp [relativeTo, below?_under]

theorem resolve_join (h : ".." ∉ rest) :
    resolve cwd (root.join ⟨.relative, rest⟩) = (resolve cwd root).under rest := by
  have behind : root.join ⟨.relative, rest⟩ = root.under rest := rfl
  rw [behind]
  ext1
  case anchor => rfl
  case parts =>
    unfold resolve join isAbsolute under
    split
    case isTrue => exact normalizeParts_append h
    case isFalse =>
      rw [← List.append_assoc]
      exact normalizeParts_append h

end Below

section Characters

variable {c : Char}

theorem mem_body (slash : c ≠ '/') : c ∈ body ps ↔ ∃ part ∈ ps, c ∈ part.toList := by
  induction ps
  case nil => simp [body]
  case cons part ps hi =>
    cases ps
    case nil => simp [body]
    case cons next ps =>
      rw [body, List.map_cons, List.map_cons, List.intercalate_cons_cons, ← List.map_cons,
        List.append_assoc, List.mem_append, ← body, List.singleton_append, List.mem_cons, hi]
      simp [slash]

-- Apart from slashes, and from the dot that stands for no components, a path's text has the
-- characters of its components.
theorem mem_toString (slash : c ≠ '/') (dot : c ≠ '.') :
    c ∈ p.toString.toList ↔ ∃ part ∈ p.parts, c ∈ part.toList := by
  by_cases empty : p.anchor = .relative ∧ p.parts = []
  case pos =>
    obtain ⟨anchor, parts⟩ := p
    obtain ⟨rfl, rfl⟩ := empty
    simp [toString, dot]
  case neg =>
    have outside : c ∉ p.anchor.text.toList := by
      cases p.anchor <;> simp [Anchor.text, slash]
    simp [toList_toString empty, outside, mem_body slash]

theorem mem_of_mem_pieces (mem : piece ∈ pieces cs) (own : c ∈ piece) : c ∈ cs := by
  induction cs generalizing piece
  case nil => simp_all [pieces]
  case cons d cs hi =>
    unfold pieces at mem
    grind

theorem mem_of_mem_ofString {part : String} (mem : part ∈ (ofString s).parts)
    (own : c ∈ part.toList) : c ∈ s.toList := by
  obtain ⟨piece, kept, rfl⟩ := List.mem_map.mp mem
  exact mem_of_mem_pieces (List.mem_filter.mp kept).1 (by simpa using own)

-- A path that the system takes has no null byte in it.
def NullFree (p : Path) : Prop :=
  ∀ part ∈ p.parts, Char.ofNat 0 ∉ part.toList

instance : DecidablePred NullFree :=
  fun p => inferInstanceAs (Decidable (∀ part ∈ p.parts, Char.ofNat 0 ∉ part.toList))

theorem nullFree_iff : p.toString.toList.contains (Char.ofNat 0) = false ↔ p.NullFree := by
  rw [← Bool.not_eq_true, List.contains_iff_mem, mem_toString (by decide) (by decide)]
  simp [NullFree]

theorem nullFree_ofString (h : Char.ofNat 0 ∉ s.toList) : (ofString s).NullFree :=
  fun _ mem own => h (mem_of_mem_ofString mem own)

theorem NullFree.join (hp : p.NullFree) (hq : q.NullFree) : (p.join q).NullFree := by
  unfold Path.join
  split
  case isTrue => exact hq
  case isFalse => exact List.forall_mem_append.mpr ⟨hp, hq⟩

theorem nullFree_join_iff (hq : q.NullFree) :
    (p.join q).NullFree ↔ q.isAbsolute = true ∨ p.NullFree := by
  by_cases absolute : q.isAbsolute = true
  case pos => simpa [Path.join, absolute] using hq
  case neg =>
    have behind : (p.join q).NullFree ↔ p.NullFree ∧ q.NullFree := by
      simp [Path.join, absolute, NullFree, or_imp, forall_and]
    simp [behind, absolute, hq]

theorem nullFree_resolve (hcwd : cwd.NullFree) (hp : p.NullFree) : (resolve cwd p).NullFree := by
  intro part mem
  obtain mem | mem := mem_of_mem_normalizeParts mem
  case inl => cases mem
  case inr => exact hcwd.join hp part mem

theorem nullFree_resolve_of_isAbsolute (hp : p.NullFree) (h : p.isAbsolute = true) :
    (resolve cwd p).NullFree := by
  rw [resolve_of_isAbsolute h p]
  exact nullFree_resolve hp hp

theorem startsWith_file (h : ∀ part ∈ ps, IsPart part) (some : ps ≠ []) :
    (toString ⟨.relative, ps⟩).startsWith "file://" = false := by
  rw [String.startsWith_string_eq_false_iff, toList_toString (by simp [some])]
  rintro ⟨behind, text⟩
  have pieces : pieces (body ps) = ps.map String.toList := pieces_body h some
  rw [show body ps = "file:".toList ++ '/' :: '/' :: behind from text.symm,
    pieces_append (by decide), pieces_slash] at pieces
  have empty : [] ∈ ps.map String.toList := by simp [← pieces]
  obtain ⟨part, listed, unnamed⟩ := List.mem_map.mp empty
  exact (h part listed).nonempty (by simpa using unnamed)

end Characters

end FlowIndex.Path
