import FlowIndex.Host.Parameters
import FlowIndex.Host.Tree

namespace FlowIndex.Host

def structEnd? : List Token → Option Nat
  | struct :: brace :: rest =>
    if struct.isKeyword "struct" && brace.isMark '{' then
      (splitClosing 0 rest).map fun (_, closing, _) => closing.stop
    else none
  | _ => none

structure Spec where
  name : Token
  -- Whether a struct with type parameters was read.
  generic : Bool
  -- Where a struct ends. Of other types nothing but the name is read.
  stop : Option Nat
deriving DecidableEq, Repr

-- What is read of a name, something in square brackets and a type. A struct behind the length of an
-- array is not the type.
def bracketedSpec (leading : Bool) (name : Token) (ts type : List Token) : Spec :=
  match structEnd? type with
  | some stop =>
    if hasParameters leading (name :: ts.takeWhile (·.stop ≤ stop)) then ⟨name, true, some stop⟩
    else ⟨name, false, none⟩
  | none => ⟨name, false, none⟩

-- The specification at the head of the tokens. Line ends count for nothing before the type, and an
-- equals sign makes it an alias. `leading` says whether it is the first one of a group.
def spec? (leading : Bool) : List Token → Option Spec
  | name :: ts =>
    if name.kind = .name then
      let behind := ts.dropWhile (·.isLineEnd)
      match bracketed? '[' behind with
      | none =>
        if behind.head?.any (·.isMark '=') then none else some ⟨name, false, structEnd? behind⟩
      | some (_, rest) =>
        let type := rest.dropWhile (·.isLineEnd)
        if type.head?.any (·.isMark '=') then none else some (bracketedSpec leading name ts type)
    else none
  | [] => none

inductive Place
  -- At the start of the group.
  | leading
  -- At the start of a later specification.
  | fresh
  | inside
deriving DecidableEq, Repr

def specAt? (place : Place) (ts : List Token) : Option Spec :=
  if place = .inside then none else spec? (place = .leading) ts

def groupSpecs (place : Place) : Nat → List Token → List Spec
  | _, [] => []
  | depth, t :: ts =>
    let found := (specAt? place (t :: ts)).toList
    if t.isOpening then found ++ groupSpecs .inside (depth + 1) ts
    else if t.isClosing then
      match depth with
      | 0 => found
      | depth + 1 => found ++ groupSpecs .inside depth ts
    else found ++ groupSpecs (if depth = 0 && t.isMark ';' then .fresh else .inside) depth ts

-- The specifications of the tokens, those of a group before others inside it. The word
-- `type` starts a declaration unless it is the argument of a type switch, which neither a name nor
-- a group follows.
def specs : List Token → List Spec
  | [] => []
  | t :: ts =>
    if t.isKeyword "type" then
      match ts with
      | [] => []
      | next :: rest =>
        if next.isMark '(' then groupSpecs .leading 0 rest ++ specs ts
        else (spec? false ts).toList ++ specs ts
    else specs ts

def packageClause? : List Token → Option Token
  | t :: name :: ts =>
    if t.isKeyword "package" && name.kind = .name then some name
    else packageClause? (name :: ts)
  | _ => none

def leaf (cs : List Char) (kind : String) (role : Option String) (start stop : Nat) : Tree :=
  { kind, role, start := .atOffset cs start, stop := .atOffset cs stop }

def Spec.tree (cs : List Char) (s : Spec) : Tree :=
  let stop := s.stop.getD s.name.stop
  let type := if s.stop.isSome then "struct_type" else "_type"
  { kind := "type_spec"
    start := .atOffset cs s.name.start
    stop := .atOffset cs stop
    children :=
      leaf cs "type_identifier" (some "name") s.name.start s.name.stop ::
        ((if s.generic then
            [leaf cs "type_parameter_list" (some "type_parameters") s.name.stop stop]
          else []) ++
          [leaf cs type (some "type") s.name.stop stop]) }

def packageTree (cs : List Char) (name : Token) : Tree :=
  { kind := "package_clause"
    start := .atOffset cs name.start
    stop := .atOffset cs name.stop
    children := [leaf cs "package_identifier" none name.start name.stop] }

-- The tree of a source, as far as anybody asks for it: the package clause and the specifications,
-- wherever they are declared.
def sourceTree (cs : List Char) : Tree :=
  let ts := tokens cs
  { kind := "source_file"
    start := .atOffset cs 0
    stop := .atOffset cs cs.length
    children := (packageClause? ts).toList.map (packageTree cs) ++ (specs ts).map (Spec.tree cs) }

section Between

variable {cs : List Char} {t : Tree}

theorem nodes_leaf (kind : String) (role : Option String) (start stop : Nat) :
    (leaf cs kind role start stop).nodes = [leaf cs kind role start stop] := by
  rw [Tree.nodes_eq]
  rfl

theorem between_sourceTree (mem : t ∈ (sourceTree cs).nodes) : t.Between cs := by
  have leaf {kind : String} {role : Option String} {start stop : Nat}
      (mem : t ∈ (leaf cs kind role start stop).nodes) : t.Between cs := by
    rw [nodes_leaf, List.mem_singleton] at mem
    exact ⟨start, stop, by rw [mem]; rfl, by rw [mem]; rfl⟩
  rw [Tree.nodes_eq, Tree.nodesOf_eq, List.mem_cons, List.mem_flatMap] at mem
  obtain rfl | ⟨u, child, mem⟩ := mem
  case inl => exact ⟨0, cs.length, rfl, rfl⟩
  case inr =>
    rw [Tree.nodes_eq, Tree.nodesOf_eq, List.mem_cons, List.mem_flatMap] at mem
    obtain child | child := List.mem_append.mp child
    all_goals obtain ⟨_, _, rfl⟩ := List.mem_map.mp child
    all_goals obtain rfl | ⟨v, below, mem⟩ := mem
    case inl.inl => exact ⟨_, _, rfl, rfl⟩
    case inr.inl => exact ⟨_, _, rfl, rfl⟩
    case inl.inr =>
      obtain rfl := List.mem_singleton.mp below
      exact leaf mem
    case inr.inr spec _ =>
      simp only [Spec.tree, List.mem_cons, List.mem_append, List.mem_ite_nil_right,
        List.not_mem_nil, or_false] at below
      obtain rfl | ⟨_, rfl⟩ | rfl := below
      all_goals exact leaf mem

end Between

-- The parser that is used unless another one is given.
def Parser.standard : Parser where
  parse := sourceTree
  between _ _ := between_sourceTree

end FlowIndex.Host
