import FlowIndex.Host.Struct
import FlowIndex.Proofs.Host.Specs
import Mathlib.Data.List.Forall2

namespace FlowIndex.Host

variable {cs : List Char} {ls : List Lexeme} {sites : List Site} {site : Site}
  {clause : Option Token} {generic : Site → Bool} {parser : Parser}

-- What the words of a specification can be, by the rules of the language, if something in square brackets
-- stands between its name and a struct.
structure Language where
  -- Whether the brackets can hold type parameters.
  parameters : List Token → Prop
  -- Whether the brackets can make the type an array of structs.
  array : List Token → Prop

-- The words of the specification at a site.
def Site.words (site : Site) : List Token :=
  specified (site.name :: site.type)

section Descriptions

-- Whether a node is in the field of a name or of a type.
def Tree.isField (t : Tree) : Bool :=
  t.role = some "name" || t.role = some "type"

-- Whether a node shows the specification at a site, when it is known which brackets hold type
-- parameters.
structure Tree.Shows (cs : List Char) (generic : Site → Bool) (site : Site) (t : Tree) : Prop where
  start : t.start = .atOffset cs site.name.start
  stop : site.declared generic = true → t.stop = .atOffset cs site.stop
  fields : ∃ name type, t.children.filter Tree.isField = [name, type] ∧ name.isName = true ∧
    name.start = .atOffset cs site.name.start ∧ name.stop = .atOffset cs site.name.stop ∧
    type.role = some "type" ∧ type.isStruct = site.declared generic

-- What is expected of a parser: the tree of a source has the name in its package clause, and one node for
-- each type specification that is no alias, wherever that stands. `generic` says where brackets in front
-- of structs were read as type parameters, which has to be a way to read them.
structure Parser.Describes (parser : Parser) (language : Language) (cs : List Char)
    (clause : Option Token) (sites : List Site) (generic : Site → Bool) : Prop where
  clause : (parser.parse cs).packageNames.map (fun t => (t.start, t.stop)) =
    clause.toList.map fun t => (.atOffset cs t.start, .atOffset cs t.stop)
  specs : ∃ ts, ts.Perm ((parser.parse cs).nodes.filter (·.kind = "type_spec")) ∧
    List.Forall₂ (Tree.Shows cs generic) sites ts
  parameters : ∀ site ∈ sites, site.struct = true → site.bracketed = true → generic site = true →
    language.parameters site.words
  array : ∀ site ∈ sites, site.struct = true → site.bracketed = true → generic site = false →
    language.array site.words

-- What the language settles of a site. Only where it can read brackets both ways, the parser has a choice.
structure Site.Settles (language : Language) (site : Site) (declared : Bool) : Prop where
  other : site.struct = false → declared = false
  plain : site.struct = true → site.bracketed = false → declared = true
  parameters : site.struct = true → site.bracketed = true → ¬language.array site.words →
    declared = true
  array : site.struct = true → site.bracketed = true → ¬language.parameters site.words →
    declared = false

theorem Parser.Describes.settles {language : Language}
    (describes : parser.Describes language cs clause sites generic) (mem : site ∈ sites) :
    site.Settles language (site.declared generic) where
  other other := by rw [Site.declared, other, Bool.false_and]
  plain struct plain := by rw [Site.declared, struct, plain]; rfl
  parameters struct bracketed none := by
    rw [Site.declared, struct, bracketed, Bool.true_and, Bool.not_true, Bool.false_or]
    exact Bool.of_not_eq_false <| mt (describes.array site mem struct bracketed) none
  array struct bracketed none := by
    rw [Site.declared, struct, bracketed, Bool.true_and, Bool.not_true, Bool.false_or]
    exact Bool.eq_false_iff.mpr <| mt (describes.parameters site mem struct bracketed) none

end Descriptions

section Standard

-- The grammar of the parser that is used unless another one is given.
def Language.standard : Language :=
  ⟨Generic, Direct⟩

theorem filter_nodes_leaf {kind : String} (other : kind ≠ "type_spec") (role : Option String)
    (start stop : Nat) :
    (leaf cs kind role start stop).nodes.filter (·.kind = "type_spec") = [] := by
  rw [nodes_leaf]
  exact List.filter_cons_of_neg <| mt of_decide_eq_true other

theorem filter_nodes_packageTree (name : Token) :
    (packageTree cs name).nodes.filter (·.kind = "type_spec") = [] := by
  rw [Tree.nodes_eq, Tree.nodesOf_eq, List.filter_cons_of_neg (by simp [packageTree]), packageTree,
    List.flatMap_singleton, filter_nodes_leaf (by decide)]

theorem filter_nodes_tree (spec : Spec) :
    (spec.tree cs).nodes.filter (·.kind = "type_spec") = [spec.tree cs] := by
  rw [Tree.nodes_eq, Tree.nodesOf_eq, List.filter_cons_of_pos (by simp [Spec.tree])]
  congr 1
  rw [List.filter_flatMap, List.flatMap_eq_nil_iff]
  intro t mem
  simp only [Spec.tree, List.mem_cons, List.mem_append, List.mem_ite_nil_right, List.not_mem_nil,
    or_false] at mem
  obtain rfl | ⟨_, rfl⟩ | rfl := mem
  case inl | inr.inl => exact filter_nodes_leaf (by decide) _ _ _
  case inr.inr =>
    refine filter_nodes_leaf ?_ _ _ _
    split <;> decide

theorem specs_sourceTree (cs : List Char) :
    (sourceTree cs).nodes.filter (·.kind = "type_spec") = (specs (tokens cs)).map (Spec.tree cs) := by
  have clause (names : List Token) :
      ((names.map (packageTree cs)).flatMap Tree.nodes).filter (·.kind = "type_spec") = [] := by
    rw [List.filter_flatMap, List.flatMap_eq_nil_iff, List.forall_mem_map]
    exact fun name _ => filter_nodes_packageTree name
  rw [Tree.nodes_eq, Tree.nodesOf_eq, List.filter_cons_of_neg (by simp [sourceTree]), sourceTree,
    List.flatMap_append, List.filter_append, clause, List.nil_append, List.filter_flatMap,
    List.flatMap_map]
  simp only [filter_nodes_tree]
  exact List.flatMap_pure_eq_map ..

theorem packageNames_sourceTree (cs : List Char) : (sourceTree cs).packageNames =
    (packageClause? (tokens cs)).toList.map fun name =>
      leaf cs "package_identifier" none name.start name.stop := by
  have clause : (sourceTree cs).children.filter (·.kind = "package_clause") =
      (packageClause? (tokens cs)).toList.map (packageTree cs) := by
    rw [sourceTree, List.filter_append, List.filter_eq_self.mpr, List.filter_eq_nil_iff.mpr,
      List.append_nil]
    all_goals
      rw [List.forall_mem_map]
      intro _ _
      simp [packageTree, Spec.tree]
  rw [Tree.packageNames, clause]
  cases packageClause? (tokens cs)
  all_goals rfl

theorem shows_tree (site : Site) : (site.spec.tree cs).Shows cs Site.generic site := by
  have name : site.spec.name = site.name := by
    rw [Site.spec]
    split <;> rfl
  constructor
  case start => rw [Spec.tree, name]
  case stop =>
    intro declared
    rw [Site.spec, if_pos declared]
    rfl
  case fields =>
    have other : (site.spec.tree cs).children.filter Tree.isField =
        [leaf cs "type_identifier" (some "name") site.spec.name.start site.spec.name.stop,
          leaf cs (if site.spec.stop.isSome then "struct_type" else "_type") (some "type")
            site.spec.name.stop (site.spec.stop.getD site.spec.name.stop)] := by
      rw [Spec.tree]
      cases site.spec.generic
      all_goals rfl
    refine ⟨_, _, other, rfl, by rw [name]; rfl, by rw [name]; rfl, rfl, ?_⟩
    rw [Site.spec]
    cases site.declared Site.generic
    all_goals rfl

theorem Parser.standard_describes (elements : Elements ls)
    (file : File (tokensFrom 0 false ls) clause sites)
    (read : ∀ site ∈ sites, site.struct = true → site.bracketed = true →
      readings .spec site.words ≠ []) :
    Parser.standard.Describes .standard (ls.flatMap Lexeme.text) clause sites Site.generic where
  clause := by
    show (sourceTree _).packageNames.map _ = _
    rw [packageNames_sourceTree, elements.tokens_eq, file.packageClause?_eq, List.map_map]
    rfl
  specs := by
    refine ⟨(found sites).map (Spec.tree (ls.flatMap Lexeme.text)), ?_, ?_⟩
    case refine_1 =>
      show List.Perm _ ((sourceTree _).nodes.filter _)
      rw [specs_sourceTree, elements.tokens_eq]
      exact ((file.specs_perm <| elements.tokens_eq ▸ ordered_tokens _).map _).symm
    case refine_2 =>
      rw [found, List.map_map, List.forall₂_map_right_iff]
      exact List.forall₂_same.mpr fun site _ => shows_tree site
  parameters site _ _ _ found := generic_of_hasParameters found
  array site mem struct bracketed none :=
    (direct_of_not_hasParameters none).resolve_right <| read site mem struct bracketed

end Standard

end FlowIndex.Host
