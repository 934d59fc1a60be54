import FlowIndex.Proofs.Host.Described
import FlowIndex.Proofs.Host.SourceLines
import Mathlib.Data.List.Nodup

namespace FlowIndex.Host

open Text

variable {cs : List Char} {ls : List Lexeme} {t : Tree} {ts : List Tree} {sites : List Site}
  {site : Site} {clause : Option Token} {generic : Site → Bool} {parser : Parser}

section Nodes

-- Nodes in other fields, or in none, count for nothing.
theorem Tree.structNames_filter (ts : List Tree) :
    structNames (ts.filter isField) = structNames ts := by
  induction ts
  case nil => rfl
  case cons t ts hi =>
    have structs : (ts.filter isField).filter isStruct = ts.filter isStruct := by
      rw [List.filter_filter]
      refine List.filter_congr fun u _ => ?_
      by_cases role : u.role = some "type"
      all_goals simp [isStruct, isField, role]
    by_cases field : t.isField = true
    case pos => rw [List.filter_cons_of_pos field, structNames, structNames, structs, hi]
    case neg =>
      have other : ¬t.isName = true := by
        simp only [isField, Bool.or_eq_true, not_or, decide_eq_true_iff] at field
        simp [isName, field]
      rw [List.filter_cons_of_neg field, structNames, if_neg other, List.nil_append, hi]

-- The specification of the struct at a site, and its name.
structure Site.Found (cs : List Char) (site : Site) (found : Tree × Tree) : Prop where
  start : found.1.start = .atOffset cs site.name.start
  stop : found.1.stop = .atOffset cs site.stop
  name : found.2.text (utf8 cs) = site.name.text

theorem Token.Spelled.text_eq {name : Token} (spelled : name.Spelled cs)
    (start : t.start = .atOffset cs name.start) (stop : t.stop = .atOffset cs name.stop) :
    t.text (utf8 cs) = name.text := by
  rw [Tree.text, start, stop, spelled.text]
  exact congrArg String.ofList <| textBetween_byteOffset cs name.start name.stop

theorem found_of_shows (shows' : List.Forall₂ (Tree.Shows cs generic) sites ts)
    (spelled : ∀ site ∈ sites, site.name.Spelled cs) :
    List.Forall₂ (Site.Found cs) (sites.filter (Site.declared generic))
      (ts.flatMap fun spec => (Tree.structNames spec.children).map (spec, ·)) := by
  induction shows'
  case nil => exact .nil
  case cons site t sites ts shown _ hi =>
    obtain ⟨here, spelled⟩ := List.forall_mem_cons.mp spelled
    obtain ⟨name, type, fields, isName, start, stop, role, isStruct⟩ := shown.fields
    have other : type.isName = false := by simp [Tree.isName, role]
    have names : Tree.structNames t.children =
        if site.declared generic = true then [name] else [] := by
      rw [← Tree.structNames_filter, fields, Tree.structNames, if_pos isName, Tree.structNames, other,
        List.filter_singleton, isStruct]
      cases site.declared generic
      all_goals rfl
    rw [List.filter_cons, List.flatMap_cons, names]
    split
    case isFalse => exact hi spelled
    case isTrue declared =>
      refine .cons ⟨shown.start, shown.stop declared, ?_⟩ <| hi spelled
      exact here.text_eq start stop

theorem mergeSort_eq_of_increasing {α : Type} {f : α → Nat} {xs ys : List α} (perm : xs.Perm ys)
    (increasing : (ys.map f).Pairwise (· < ·)) : xs.mergeSort (fun a b => f a ≤ f b) = ys := by
  have distinct : (ys.map f).Nodup := increasing.imp Nat.ne_of_lt
  have sorted : (xs.mergeSort fun a b => f a ≤ f b).Pairwise fun a b => f a ≤ f b := by
    refine (List.pairwise_mergeSort (fun a b c first second => ?_) (fun a b => ?_) _).imp
      of_decide_eq_true
    case refine_1 =>
      exact decide_eq_true <| Nat.le_trans (of_decide_eq_true first) (of_decide_eq_true second)
    case refine_2 =>
      rw [Bool.or_eq_true, decide_eq_true_iff, decide_eq_true_iff]
      exact Nat.le_total _ _
  have perm := (List.mergeSort_perm xs fun a b => f a ≤ f b).trans perm
  refine perm.eq_of_pairwise (fun a b first second le ge => ?_) sorted <|
    (List.pairwise_map.mp increasing).imp Nat.le_of_lt
  exact List.inj_on_of_nodup_map distinct (perm.mem_iff.mp first) second <| Nat.le_antisymm le ge

theorem map_eq_of_forall₂ {α β γ : Type} {f : α → γ} {g : β → γ} {as : List α} {bs : List β}
    (same : List.Forall₂ (fun a b => f a = g b) as bs) : as.map f = bs.map g := by
  have same := List.forall₂_map_left_iff.mpr <| List.forall₂_map_right_iff.mpr same
  rwa [List.forall₂_eq_eq_eq] at same

end Nodes

section Exactness

-- What is said of a struct that is declared at a site.
def Site.toStruct (source uri path package : String) (modified : Int) (site : Site) : Struct where
  name := site.name.text
  package := package
  uri := uri
  path := path
  modified := Double.ofInt modified
  span := (LineIndex.ofChars source.toList).span site.name.start site.stop
  definition := "type " ++ String.ofList
    ((source.toList.drop site.name.start).take (site.stop - site.name.start))

theorem File.spelled (file : File (tokens cs) clause sites) : ∀ site ∈ sites, site.name.Spelled cs := by
  intro site mem
  have named := (Token.no_mark_of_kind (t := site.name) <| by simp [file.named site mem]).2.2
  exact spelled_of_mem_tokens (file.names.mem <| List.mem_map_of_mem mem) <|
    Token.isLineEnd_eq_false named

-- In a tree that is as expected, what is found in order of position stands for the sites that declare
-- structs.
theorem Parser.Describes.found {language : Language}
    (describes : parser.Describes language cs clause sites generic)
    (file : File (tokens cs) clause sites) :
    List.Forall₂ (Site.Found cs) (sites.filter (Site.declared generic))
      (parser.parse cs).sortedSpecs := by
  obtain ⟨ts, perm, shows'⟩ := describes.specs
  have found := found_of_shows shows' file.spelled
  refine cast ?_ found
  congr 1
  refine (mergeSort_eq_of_increasing (f := fun found : Tree × Tree => found.1.start.byte)
    (perm.symm.flatMap_right _) ?_).symm
  have starts := map_eq_of_forall₂ (f := fun site : Site => byteOffset cs site.name.start)
    (g := fun found : Tree × Tree => found.1.start.byte) <|
      found.imp fun site found shown => (congrArg Edge.byte shown.start).symm
  rw [← starts, List.pairwise_map]
  have ordered := (file.pairwise_start <| ordered_tokens cs).filter (Site.declared generic)
  refine ordered.imp_of_mem fun {a b} _ mem before => byteOffset_lt before ?_
  have mem := (List.mem_filter.mp mem).1
  have filled := (ordered_tokens cs).start_le_stop <| file.names.mem <| List.mem_map_of_mem mem
  exact Nat.le_trans filled (file.spelled b mem).within

theorem File.spelled_clause (file : File (tokens cs) clause sites) :
    ∀ name ∈ clause, name.Spelled cs := by
  generalize same : tokens cs = ts at file
  cases file
  case bare => nofun
  case package keyword name ts package named code =>
    rintro _ ⟨⟩
    have line := Token.isLineEnd_eq_false (Token.no_mark_of_kind (t := name) <| by simp [named]).2.2
    refine spelled_of_mem_tokens ?_ line
    rw [same]
    exact List.mem_cons_of_mem _ List.mem_cons_self

theorem Parser.Describes.packageName {language : Language}
    (describes : parser.Describes language cs clause sites generic)
    (file : File (tokens cs) clause sites) :
    (parser.parse cs).packageNames.head?.map (·.text (utf8 cs)) = clause.map Token.text := by
  have same := describes.clause
  cases clause
  case none => rw [List.map_eq_nil_iff.mp same]; rfl
  case some name =>
    obtain ⟨t, names, place⟩ := List.map_eq_singleton_iff.mp same
    obtain ⟨start, stop⟩ := Prod.mk.inj place
    rw [names]
    exact congrArg some <| (file.spelled_clause name rfl).text_eq start stop

end Exactness

section Structs

-- Specifications in a group and in a function literal. The brackets of two of them hold a product or a
-- parameter of a pointer type.
def bracketSource : String :=
  "package p;type(A[N*m.K]struct\x7b\x7d;B[T any]struct\x7b\x7d);" ++
    "var _=func()\x7btype C[N*m.K]struct\x7b\x7d\x7d"

def nameAt (text : String) (start : Nat) : Token :=
  ⟨.name, text, start, start + 1⟩

def markAt (text : String) (start : Nat) : Token :=
  ⟨.mark, text, start, start + 1⟩

def keywordAt (text : String) (start : Nat) : Token :=
  ⟨.keyword, text, start, start + text.length⟩

-- An empty struct type, perhaps with something in front of it.
def structAt (start : Nat) : List Token :=
  [keywordAt "struct" start, markAt "\x7b" (start + 6), markAt "\x7d" (start + 7)]

def productAt (start : Nat) : List Token :=
  markAt "[" start :: ([nameAt "N" (start + 1), markAt "*" (start + 2), nameAt "m" (start + 3),
    markAt "." (start + 4), nameAt "K" (start + 5)] ++ markAt "]" (start + 6) :: structAt (start + 7))

def parameterAt (start : Nat) : List Token :=
  markAt "[" start :: ([nameAt "T" (start + 1), ⟨.name, "any", start + 3, start + 6⟩] ++
    markAt "]" (start + 6) :: structAt (start + 7))

def bracketSites : List Site :=
  [⟨nameAt "A" 15, productAt 16, 31, true, true, true⟩,
    ⟨nameAt "B" 32, parameterAt 33, 48, false, true, true⟩,
    ⟨nameAt "C" 68, productAt 69, 84, false, true, true⟩]

-- A product counts as one only where it leads a group.
theorem hasParameters_bracketSites : bracketSites.map (fun site =>
    (hasParameters true (site.name :: site.type), hasParameters false (site.name :: site.type))) =
      [(false, true), (true, true), (false, true)] := by
  decide +kernel

def bracketRow : List Lexeme :=
  let struct : List Lexeme := [.word "struct".toList, .mark '\x7b', .mark '\x7d']
  let product : List Lexeme :=
    [.mark '[', .word ['N'], .mark '*', .word ['m'], .mark '.', .word ['K'], .mark ']'] ++ struct
  [.word "package".toList, .gap [' '], .word ['p'], .mark ';', .word "type".toList, .mark '(',
    .word ['A']] ++ product ++ [.mark ';', .word ['B'], .mark '[', .word ['T'], .gap [' '],
    .word "any".toList, .mark ']'] ++ struct ++ [.mark ')', .mark ';', .word "var".toList, .gap [' '],
    .word ['_'], .mark '=', .word "func".toList, .mark '(', .mark ')', .mark '\x7b',
    .word "type".toList, .gap [' '], .word ['C']] ++ product ++ [.mark '\x7d']

theorem elements_bracketRow : Elements bracketRow := by
  have mark {c : Char} {ls : List Lexeme} (plain : isBlank c = false ∧ isNameChar c = false ∧
      c ≠ '"' ∧ c ≠ runeQuote ∧ c ≠ rawQuote ∧ c ≠ '/') (later : Elements ls) :
      Elements (.mark c :: ls) := by
    obtain ⟨blank, name, quote, rune, raw, slash⟩ := plain
    exact .cons (.mark blank name ⟨quote, rune, raw⟩ fun same => absurd same slash) later
  have word {c : Char} {cs : List Char} {ls : List Lexeme}
      (plain : isNameChar c = true ∧ c.isDigit = false ∧ isBlank c = false ∧
        cs.all isNameChar = true ∧ (ls.flatMap Lexeme.text).head?.any isNameChar = false)
      (later : Elements ls) : Elements (.word (c :: cs) :: ls) := by
    obtain ⟨start, digit, blank, inside, stops⟩ := plain
    refine .cons (.word start digit blank (List.all_eq_true.mp inside) fun d mem => ?_) later
    rwa [Option.mem_def.mp mem] at stops
  have space {ls : List Lexeme} (stops : (ls.flatMap Lexeme.text).head?.any isBlank = false)
      (later : Elements ls) : Elements (.gap [' '] :: ls) := by
    refine .cons (.blanks (List.cons_ne_nil _ _) (List.all_eq_true.mp <| by decide) fun d mem => ?_) later
    rwa [Option.mem_def.mp mem] at stops
  refine word ?_ <| space ?_ <| word ?_ <| mark ?_ <| word ?_ <| mark ?_ <| word ?_ <| mark ?_ <|
    word ?_ <| mark ?_ <| word ?_ <| mark ?_ <| word ?_ <| mark ?_ <| word ?_ <| mark ?_ <| mark ?_ <|
    mark ?_ <| word ?_ <| mark ?_ <| word ?_ <| space ?_ <| word ?_ <| mark ?_ <| word ?_ <|
    mark ?_ <| mark ?_ <| mark ?_ <| mark ?_ <| word ?_ <| space ?_ <| word ?_ <| mark ?_ <|
    word ?_ <| mark ?_ <| mark ?_ <| mark ?_ <| word ?_ <| space ?_ <| word ?_ <| mark ?_ <|
    word ?_ <| mark ?_ <| word ?_ <| mark ?_ <| word ?_ <| mark ?_ <| word ?_ <| mark ?_ <| mark ?_ <|
    mark ?_ .nil
  all_goals decide

theorem file_bracketRow :
    File (tokensFrom 0 false bracketRow) (some (nameAt "p" 8)) bracketSites := by
  have word {t : Token} {ts : List Token} {sites : List Site}
      (plain : t.isOpening = false ∧ t.isClosing = false ∧ t.isKeyword "type" = false ∧
        t.isKeyword "package" = false)
      (later : Written .code ts sites) : Written .code (t :: ts) sites :=
    .word ⟨plain.1, plain.2.1, plain.2.2.1, plain.2.2.2⟩ later
  have product {leading : Bool} (text : String) (start : Nat) :
      Written (.spec leading) (nameAt text start :: productAt (start + 1))
        [⟨nameAt text start, productAt (start + 1), start + 16, leading, true, true⟩] := by
    have brackets : Written .code [nameAt "N" (start + 2), markAt "*" (start + 3),
        nameAt "m" (start + 4), markAt "." (start + 5), nameAt "K" (start + 6)] [] :=
      word ⟨rfl, rfl, rfl, rfl⟩ <| word ⟨rfl, rfl, rfl, rfl⟩ <| word ⟨rfl, rfl, rfl, rfl⟩ <|
        word ⟨rfl, rfl, rfl, rfl⟩ <| word ⟨rfl, rfl, rfl, rfl⟩ .nil
    exact .bracketed rfl rfl brackets rfl rfl rfl rfl .nil
  have parameter : Written (.spec false) (nameAt "B" 32 :: parameterAt 33) _ :=
    .bracketed rfl rfl (word (by decide) <| word (by decide) .nil) rfl rfl rfl rfl .nil
  have specs : Written (.specs true)
      ((nameAt "A" 15 :: productAt 16) ++ markAt ";" 31 :: (nameAt "B" 32 :: parameterAt 33)) _ :=
    .more (product "A" 15) rfl <| .last parameter
  have body : Written .code (keywordAt "type" 63 :: ((nameAt "C" 68 :: productAt 69) ++ [])) _ :=
    .declaration rfl (product "C" 68) .nil
  have literal : Written .code (markAt "(" 60 :: ([] ++ markAt ")" 61 :: markAt "\x7b" 62 ::
      (_ ++ markAt "\x7d" 84 :: []))) _ :=
    .group rfl rfl .nil <| .group rfl rfl body .nil
  have code : Written .code (markAt ";" 9 :: keywordAt "type" 10 :: markAt "(" 14 ::
      (_ ++ markAt ")" 48 :: markAt ";" 49 :: keywordAt "var" 50 :: nameAt "_" 54 :: markAt "=" 55 ::
        keywordAt "func" 56 :: _)) _ :=
    word (by decide) <| .declarations rfl rfl rfl specs <| word (by decide) <| word (by decide) <|
      word (by decide) <| word (by decide) <| word (by decide) literal
  have file : File (keywordAt "package" 0 :: nameAt "p" 8 :: _) _ _ := .package rfl rfl code
  exact file

-- The structs of a source are those that its type specifications declare, each one once and in order,
-- if the tree of the source is as expected.
theorem structs_exact {language : Language} (elements : Elements ls)
    (file : File (tokensFrom 0 false ls) clause sites)
    (describes : parser.Describes language (ls.flatMap Lexeme.text) clause sites generic)
    (uri path : String) (modified : Int) :
    let source := String.ofList (ls.flatMap Lexeme.text)
    sites.Pairwise (fun a b => a.name.start < b.name.start) ∧
      (∀ site ∈ sites, site.Settles language (site.declared generic)) ∧
      structs source uri path modified parser =
        (match clause.map Token.text with
          | none | some "main" => directoryName path (some uri)
          | some name => .ok name).map fun package =>
            (sites.filter (Site.declared generic)).map
              (Site.toStruct source uri path package modified) := by
  intro source
  have text : source.toList = ls.flatMap Lexeme.text := String.toList_ofList
  rw [← elements.tokens_eq] at file
  refine ⟨file.pairwise_start <| ordered_tokens _, fun _ mem => describes.settles mem, ?_⟩
  have records (package : String) :
      ((parser.parse (ls.flatMap Lexeme.text)).sortedSpecs.map fun found =>
        structOf (utf8 (ls.flatMap Lexeme.text)) package uri path modified found.1 found.2) =
      (sites.filter (Site.declared generic)).map
        (Site.toStruct source uri path package modified) := by
    refine (map_eq_of_forall₂ <| (describes.found file).imp fun site found shown => ?_).symm
    have slice : found.1.text (utf8 (ls.flatMap Lexeme.text)) = String.ofList
        (((ls.flatMap Lexeme.text).drop site.name.start).take (site.stop - site.name.start)) := by
      rw [Tree.text, shown.start, shown.stop]
      exact congrArg String.ofList <| textBetween_byteOffset ..
    simp only [Site.toStruct, structOf, shown.name, slice, shown.start, shown.stop, text,
      Edge.atOffset, SourceLines.span_atOffset]
  rw [structs_eq_map, packageName, packageOf, text, describes.packageName file]
  exact congrArg (Except.map · _) <| funext records

-- Where both readings exist, a product counts as type parameters unless it leads a group.
theorem structs_exact_brackets :
    (∀ site ∈ bracketSites, site.name.text ≠ "B" →
      Language.standard.parameters site.words ∧ Language.standard.array site.words) ∧
    structs bracketSource "" "" 0 = .ok
      [{ name := "B", package := "p", uri := "", path := "", span := ⟨⟨0, 32⟩, ⟨0, 48⟩⟩
         modified := 0, definition := "type B[T any]struct\x7b\x7d" },
       { name := "C", package := "p", uri := "", path := "", span := ⟨⟨0, 68⟩, ⟨0, 84⟩⟩
         modified := 0, definition := "type C[N*m.K]struct\x7b\x7d" }] := by
  have known := hasParameters_bracketSites
  simp only [bracketSites, List.map_cons, List.map_nil, List.cons.injEq, Prod.mk.injEq] at known
  obtain ⟨⟨leadA, laterA⟩, ⟨_, laterB⟩, ⟨leadC, laterC⟩, _⟩ := known
  have readA := readings_ne_nil_of_hasParameters laterA
  have readC := readings_ne_nil_of_hasParameters laterC
  have read : ∀ site ∈ bracketSites, readings .spec site.words ≠ [] := by
    simp only [bracketSites, List.forall_mem_cons]
    exact ⟨readA, readings_ne_nil_of_hasParameters laterB, readC, List.forall_mem_nil _⟩
  have text : String.ofList (bracketRow.flatMap Lexeme.text) = bracketSource := by decide
  obtain ⟨_, _, same⟩ := structs_exact elements_bracketRow file_bracketRow
    (Parser.standard_describes elements_bracketRow file_bracketRow fun site mem _ _ => read site mem)
    "" "" 0
  have declared : bracketSites.filter (Site.declared Site.generic) =
      [⟨nameAt "B" 32, parameterAt 33, 48, false, true, true⟩,
        ⟨nameAt "C" 68, productAt 69, 84, false, true, true⟩] := by
    simp [bracketSites, Site.declared, Site.generic, leadA, laterB, laterC]
  rw [text, declared] at same
  refine ⟨?_, same.trans <| congrArg Except.ok <| by decide +kernel⟩
  simp only [bracketSites, List.forall_mem_cons]
  refine ⟨fun _ => ⟨?_, ?_⟩, fun other => absurd rfl other, fun _ => ⟨?_, ?_⟩,
    List.forall_mem_nil _⟩
  case refine_1 => exact generic_of_hasParameters laterA
  case refine_2 => exact (direct_of_not_hasParameters leadA).resolve_right readA
  case refine_3 => exact generic_of_hasParameters laterC
  case refine_4 => exact (direct_of_not_hasParameters leadC).resolve_right readC

end Structs

end FlowIndex.Host
