import FlowIndex.Host.Struct
import FlowIndex.Proofs.Host.Readings
import FlowIndex.Proofs.Host.Source

namespace FlowIndex.Host

variable {ts us vs rest : List Token} {t t' name : Token} {c : Char} {depth : Nat} {leading : Bool}

section Balance

-- Tokens whose brackets are closed.
inductive Balanced : List Token → Prop
  | nil : Balanced []
  | word {t : Token} {ts : List Token} (opening : t.isOpening = false) (closing : t.isClosing = false)
      (later : Balanced ts) : Balanced (t :: ts)
  | group {t t' : Token} {us ts : List Token} (opening : t.isOpening = true)
      (closing : t'.isClosing = true) (within : Balanced us) (later : Balanced ts) :
    Balanced (t :: (us ++ t' :: ts))

-- Whether no semicolon stands outside of brackets.
inductive Unbroken : List Token → Prop
  | nil : Unbroken []
  | word {t : Token} {ts : List Token} (opening : t.isOpening = false) (closing : t.isClosing = false)
      (semicolon : t.isMark ';' = false) (later : Unbroken ts) : Unbroken (t :: ts)
  | group {t t' : Token} {us ts : List Token} (opening : t.isOpening = true)
      (closing : t'.isClosing = true) (within : Balanced us) (later : Unbroken ts) :
    Unbroken (t :: (us ++ t' :: ts))

theorem Token.isMark_eq_false (mark : t.isMark c = true) {d : Char} (other : c ≠ d) :
    t.isMark d = false := by
  simp only [isMark, Bool.and_eq_true, decide_eq_true_eq] at mark ⊢
  obtain ⟨kind, text⟩ := mark
  simp [kind, text, String.singleton_inj, other]

theorem Token.kind_of_isMark (mark : t.isMark c = true) : t.kind = .mark := by
  simp only [isMark, Bool.and_eq_true, decide_eq_true_eq] at mark
  exact mark.1

theorem Token.kind_of_bracket (bracket : t.isOpening = true ∨ t.isClosing = true) : t.kind = .mark := by
  simp only [isOpening, isClosing, Bool.or_eq_true] at bracket
  obtain ((first | first) | first) | ((last | last) | last) := bracket
  all_goals exact kind_of_isMark ‹_›

theorem Token.isClosing_eq_false_of_isOpening (opening : t.isOpening = true) : t.isClosing = false := by
  simp only [isOpening, isClosing, Bool.or_eq_true] at opening ⊢
  obtain (mark | mark) | mark := opening
  all_goals simp [isMark_eq_false mark]

theorem Token.isOpening_eq_false_of_isClosing (closing : t.isClosing = true) : t.isOpening = false := by
  refine Bool.eq_false_iff.mpr fun opening => ?_
  rw [isClosing_eq_false_of_isOpening opening] at closing
  cases closing

theorem Balanced.append (first : Balanced us) (second : Balanced ts) : Balanced (us ++ ts) := by
  induction first
  case nil => exact second
  case word opening closing _ hi => exact .word opening closing hi
  case group t t' us vs opening closing within _ _ hi =>
    rw [List.cons_append, List.append_assoc, List.cons_append]
    exact .group opening closing within hi

theorem splitClosing_opening (opening : t.isOpening = true) : splitClosing depth (t :: ts) =
    (splitClosing (depth + 1) ts).map fun (inner, rest) => (t :: inner, rest) := by
  rw [splitClosing.eq_def]
  exact if_pos opening

theorem splitClosing_closing (closing : t.isClosing = true) :
    splitClosing 0 (t :: ts) = some ([], t, ts) := by
  rw [splitClosing.eq_def]
  simp [Token.isOpening_eq_false_of_isClosing closing, closing]

theorem splitClosing_closing_succ (closing : t.isClosing = true) : splitClosing (depth + 1) (t :: ts) =
    (splitClosing depth ts).map fun (inner, rest) => (t :: inner, rest) := by
  rw [splitClosing.eq_def]
  simp [Token.isOpening_eq_false_of_isClosing closing, closing]

theorem splitClosing_word (opening : t.isOpening = false) (closing : t.isClosing = false) :
    splitClosing depth (t :: ts) =
      (splitClosing depth ts).map fun (inner, rest) => (t :: inner, rest) := by
  rw [splitClosing.eq_def]
  simp [opening, closing]

theorem Balanced.splitClosing_append (balanced : Balanced us) (depth : Nat) (ts : List Token) :
    splitClosing depth (us ++ ts) =
      (splitClosing depth ts).map fun (inner, rest) => (us ++ inner, rest) := by
  induction balanced generalizing depth ts
  case nil => simp
  case word opening closing _ hi =>
    rw [List.cons_append, splitClosing_word opening closing, hi, Option.map_map]
    rfl
  case group t t' us vs opening closing _ _ within later =>
    rw [List.cons_append, List.append_assoc, List.cons_append, splitClosing_opening opening, within,
      splitClosing_closing_succ closing, later, Option.map_map, Option.map_map, Option.map_map]
    congr 1
    funext ⟨inner, rest⟩
    simp

theorem Balanced.splitClosing_eq (balanced : Balanced us) (closing : t'.isClosing = true)
    (ts : List Token) : splitClosing 0 (us ++ t' :: ts) = some (us, t', ts) := by
  rw [balanced.splitClosing_append, splitClosing_closing closing]
  simp

theorem Balanced.groupSpecs_append (balanced : Balanced us) (depth : Nat) (ts : List Token) :
    groupSpecs .inside (depth + 1) (us ++ ts) = groupSpecs .inside (depth + 1) ts := by
  induction balanced generalizing depth ts
  case nil => rfl
  case word opening closing _ hi =>
    rw [List.cons_append, groupSpecs.eq_def]
    simp [opening, closing, specAt?, hi]
  case group t t' us vs opening closing _ _ within later =>
    rw [List.cons_append, List.append_assoc, List.cons_append, groupSpecs.eq_def]
    simp only [opening, specAt?, if_pos, Option.toList_none, List.nil_append, within]
    rw [groupSpecs.eq_def]
    simp [closing, Token.isOpening_eq_false_of_isClosing closing, specAt?, later]

theorem Unbroken.groupSpecs_append (unbroken : Unbroken us) (ts : List Token) :
    groupSpecs .inside 0 (us ++ ts) = groupSpecs .inside 0 ts := by
  induction unbroken generalizing ts
  case nil => rfl
  case word opening closing semicolon _ hi =>
    rw [List.cons_append, groupSpecs.eq_def]
    simp [opening, closing, semicolon, specAt?, hi]
  case group t t' us vs opening closing within _ later =>
    rw [List.cons_append, List.append_assoc, List.cons_append, groupSpecs.eq_def]
    simp only [opening, specAt?, if_pos, Option.toList_none, List.nil_append,
      within.groupSpecs_append]
    rw [groupSpecs.eq_def]
    simp [closing, Token.isOpening_eq_false_of_isClosing closing, specAt?, later]

end Balance

section Declarations

-- A type specification that is no alias.
structure Site where
  name : Token
  -- The tokens behind the name.
  type : List Token
  -- Where a struct at the end of the tokens ends. Of other types only the name counts.
  stop : Nat
  -- Whether the specification leads a group.
  leading : Bool
  -- Whether something in square brackets stands in front of the type.
  bracketed : Bool
  struct : Bool

-- Words of code that open or close nothing and do not begin a clause or a declaration.
structure Token.IsPlain (t : Token) : Prop where
  opening : t.isOpening = false
  closing : t.isClosing = false
  type : t.isKeyword "type" = false
  package : t.isKeyword "package" = false

-- Whether a type that is written down from here on is something else than a struct, and nothing stands
-- in brackets in front of it.
def OtherType (ts : List Token) : Prop :=
  ∃ t ∈ ts.head?, t.isLineEnd = false ∧ t.isKeyword "struct" = false ∧ t.isMark '[' = false ∧
    t.isMark '=' = false

-- What is written down: code, a specification, or the specifications of a group.
inductive Part
  | code
  | spec (leading : Bool)
  | specs (leading : Bool)

-- How code is written, and the sites in it, in order.
inductive Written : Part → List Token → List Site → Prop
  | nil : Written .code [] []
  | word {t : Token} {ts : List Token} {sites : List Site} (plain : t.IsPlain)
      (later : Written .code ts sites) : Written .code (t :: ts) sites
  | group {t t' : Token} {us ts : List Token} {inside sites : List Site} (opening : t.isOpening = true)
      (closing : t'.isClosing = true) (within : Written .code us inside)
      (later : Written .code ts sites) : Written .code (t :: (us ++ t' :: ts)) (inside ++ sites)
  -- The argument of a type switch.
  | guard {t keyword t' : Token} {ts : List Token} {sites : List Site} (opening : t.isMark '(' = true)
      (type : keyword.isKeyword "type" = true) (closing : t'.isMark ')' = true)
      (later : Written .code ts sites) : Written .code (t :: keyword :: t' :: ts) sites
  | declaration {keyword : Token} {us ts : List Token} {inside sites : List Site}
      (type : keyword.isKeyword "type" = true) (spec : Written (.spec false) us inside)
      (later : Written .code ts sites) : Written .code (keyword :: (us ++ ts)) (inside ++ sites)
  | declarations {keyword t t' : Token} {us ts : List Token} {inside sites : List Site}
      (type : keyword.isKeyword "type" = true) (opening : t.isMark '(' = true)
      (closing : t'.isMark ')' = true) (specs : Written (.specs true) us inside)
      (later : Written .code ts sites) :
    Written .code (keyword :: t :: (us ++ t' :: ts)) (inside ++ sites)
  | struct {name word t t' : Token} {us : List Token} {leading : Bool} {sites : List Site}
      (named : name.kind = .name) (keyword : word.isKeyword "struct" = true)
      (opening : t.isMark '{' = true) (closing : t'.isMark '}' = true)
      (within : Written .code us sites) :
    Written (.spec leading) (name :: word :: t :: (us ++ [t']))
      (⟨name, word :: t :: (us ++ [t']), t'.stop, leading, false, true⟩ :: sites)
  | bracketed {name word t t' b b' : Token} {us vs : List Token} {leading : Bool}
      {inside sites : List Site} (named : name.kind = .name) (first : b.isMark '[' = true)
      (brackets : Written .code vs inside) (last : b'.isMark ']' = true)
      (keyword : word.isKeyword "struct" = true) (opening : t.isMark '{' = true)
      (closing : t'.isMark '}' = true) (within : Written .code us sites) :
    Written (.spec leading) (name :: b :: (vs ++ b' :: word :: t :: (us ++ [t'])))
      (⟨name, b :: (vs ++ b' :: word :: t :: (us ++ [t'])), t'.stop, leading, true, true⟩ ::
        (inside ++ sites))
  | other {name : Token} {us : List Token} {leading : Bool} {sites : List Site}
      (named : name.kind = .name) (other : OtherType us) (unbroken : Unbroken us)
      (type : Written .code us sites) :
    Written (.spec leading) (name :: us) (⟨name, us, name.stop, leading, false, false⟩ :: sites)
  | bracketedOther {name b b' : Token} {us vs : List Token} {leading : Bool}
      {inside sites : List Site} (named : name.kind = .name) (first : b.isMark '[' = true)
      (brackets : Written .code vs inside) (last : b'.isMark ']' = true)
      (other : OtherType us ∨ ∃ t ∈ us.head?, t.isMark '[' = true) (unbroken : Unbroken us)
      (type : Written .code us sites) :
    Written (.spec leading) (name :: b :: (vs ++ b' :: us))
      (⟨name, b :: (vs ++ b' :: us), name.stop, leading, true, false⟩ :: (inside ++ sites))
  | aliased {name equals : Token} {us : List Token} {leading : Bool} {sites : List Site}
      (named : name.kind = .name) (equal : equals.isMark '=' = true) (unbroken : Unbroken us)
      (type : Written .code us sites) : Written (.spec leading) (name :: equals :: us) sites
  | bracketedAliased {name equals b b' : Token} {us vs : List Token} {leading : Bool}
      {inside sites : List Site} (named : name.kind = .name) (first : b.isMark '[' = true)
      (brackets : Written .code vs inside) (last : b'.isMark ']' = true)
      (equal : equals.isMark '=' = true) (unbroken : Unbroken us) (type : Written .code us sites) :
    Written (.spec leading) (name :: b :: (vs ++ b' :: equals :: us)) (inside ++ sites)
  | none {leading : Bool} : Written (.specs leading) [] []
  | last {us : List Token} {leading : Bool} {sites : List Site}
      (spec : Written (.spec leading) us sites) : Written (.specs leading) us sites
  | more {t : Token} {us ts : List Token} {leading : Bool} {inside sites : List Site}
      (spec : Written (.spec leading) us inside) (semicolon : t.isMark ';' = true)
      (later : Written (.specs false) ts sites) :
    Written (.specs leading) (us ++ t :: ts) (inside ++ sites)

variable {part : Part} {sites : List Site}

theorem Token.isOpening_of_isMark
    (mark : t.isMark '(' = true ∨ t.isMark '[' = true ∨ t.isMark '{' = true) : t.isOpening = true := by
  obtain mark | mark | mark := mark
  all_goals simp [isOpening, mark]

theorem Token.isClosing_of_isMark
    (mark : t.isMark ')' = true ∨ t.isMark ']' = true ∨ t.isMark '}' = true) : t.isClosing = true := by
  obtain mark | mark | mark := mark
  all_goals simp [isClosing, mark]

theorem Token.no_mark_of_kind (kind : t.kind ≠ .mark) :
    t.isOpening = false ∧ t.isClosing = false ∧ t.isMark ';' = false := by
  simp [isOpening, isClosing, isMark, kind]

theorem Token.kind_ne_mark {word : String} (keyword : t.isKeyword word = true) : t.kind ≠ .mark := by
  simp only [isKeyword, Bool.and_eq_true, decide_eq_true_eq] at keyword
  simp [keyword]

theorem Token.isKeyword_eq_false {word : String} (other : t.kind ≠ .keyword) :
    t.isKeyword word = false := by
  simp [isKeyword, other]

theorem Token.isKeyword_of_isMark (mark : t.isMark c = true) (word : String) :
    t.isKeyword word = false :=
  isKeyword_eq_false <| by simp [kind_of_isMark mark]

theorem Token.isKeyword_of_bracket (bracket : t.isOpening = true ∨ t.isClosing = true)
    (word : String) : t.isKeyword word = false :=
  isKeyword_eq_false <| by simp [kind_of_bracket bracket]

theorem Token.isKeyword_of_name (named : t.kind = .name) (word : String) :
    t.isKeyword word = false :=
  isKeyword_eq_false <| by simp [named]

theorem Token.isKeyword_of_isKeyword {word other : String} (keyword : t.isKeyword word = true)
    (apart : word ≠ other) : t.isKeyword other = false := by
  simp only [isKeyword, Bool.and_eq_true, decide_eq_true_eq] at keyword
  simp [isKeyword, keyword, apart]

theorem Token.no_bracket_of_equals (equal : t.isMark '=' = true) :
    t.isOpening = false ∧ t.isClosing = false ∧ t.isMark ';' = false := by
  simp [isOpening, isClosing, isMark_eq_false equal]

namespace Balanced

theorem equals (equal : t.isMark '=' = true) (later : Balanced ts) : Balanced (t :: ts) := by
  obtain ⟨opening, closing, _⟩ := Token.no_bracket_of_equals equal
  exact .word opening closing later

theorem named (named : name.kind = .name) (later : Balanced ts) : Balanced (name :: ts) := by
  obtain ⟨opening, closing, _⟩ := Token.no_mark_of_kind (t := name) <| by simp [named]
  exact .word opening closing later

theorem keyword {word : String} (keyword : t.isKeyword word = true) (later : Balanced ts) :
    Balanced (t :: ts) := by
  obtain ⟨opening, closing, _⟩ := Token.no_mark_of_kind <| Token.kind_ne_mark keyword
  exact .word opening closing later

theorem marked {a b : Char} (first : t.isMark a = true) (last : t'.isMark b = true)
    (pair : (a, b) ∈ [('(', ')'), ('[', ']'), ('{', '}')]) (within : Balanced us)
    (later : Balanced ts) : Balanced (t :: (us ++ t' :: ts)) := by
  refine .group (Token.isOpening_of_isMark ?_) (Token.isClosing_of_isMark ?_) within later
  all_goals
    simp only [List.mem_cons, List.not_mem_nil, or_false, Prod.mk.injEq] at pair
    obtain ⟨rfl, rfl⟩ | ⟨rfl, rfl⟩ | ⟨rfl, rfl⟩ := pair
    all_goals simp [first, last]

end Balanced

namespace Written

theorem balanced (written : Written part ts sites) : Balanced ts := by
  induction written
  case nil => exact .nil
  case word plain _ hi => exact .word plain.opening plain.closing hi
  case group opening closing _ _ within later => exact .group opening closing within later
  case guard opening type closing _ hi =>
    have argument : Balanced [_] := .keyword type .nil
    exact .marked opening closing (by decide) argument hi
  case declaration type _ _ spec later => exact .keyword type <| spec.append later
  case declarations type opening closing _ _ specs later =>
    exact .keyword type <| .marked opening closing (by decide) specs later
  case struct named keyword opening closing _ within =>
    exact .named named <| .keyword keyword <| .marked opening closing (by decide) within .nil
  case bracketed named first _ last keyword opening closing _ brackets within =>
    exact .named named <| .marked first last (by decide) brackets <| .keyword keyword <|
      .marked opening closing (by decide) within .nil
  case other named _ _ _ type => exact .named named type
  case bracketedOther named first _ last _ _ _ brackets type =>
    exact .named named <| .marked first last (by decide) brackets type
  case aliased named equal _ _ type => exact .named named <| .equals equal type
  case bracketedAliased named first _ last equal _ _ brackets type =>
    exact .named named <| .marked first last (by decide) brackets <| .equals equal type
  case none => exact .nil
  case last hi => exact hi
  case more semicolon _ spec later =>
    refine spec.append <| .word ?_ ?_ later
    all_goals simp [Token.isOpening, Token.isClosing, Token.isMark_eq_false semicolon]

theorem names (written : Written part ts sites) : (sites.map (·.name)).Sublist ts := by
  induction written
  case nil | none => exact .slnil
  case word hi => exact hi.cons _
  case group within later =>
    rw [List.map_append]
    exact (within.append <| later.cons _).cons _
  case guard hi => exact ((hi.cons _).cons _).cons _
  case declaration spec later =>
    rw [List.map_append]
    exact (spec.append later).cons _
  case declarations specs later =>
    rw [List.map_append]
    exact ((specs.append <| later.cons _).cons _).cons _
  case struct within =>
    exact (((within.trans <| List.sublist_append_left _ _).cons _).cons _).cons_cons _
  case bracketed brackets within =>
    rw [List.map_cons, List.map_append]
    refine ((brackets.append ?_).cons _).cons_cons _
    exact (((within.trans <| List.sublist_append_left _ _).cons _).cons _).cons _
  case other hi => exact hi.cons_cons _
  case bracketedOther brackets type =>
    rw [List.map_cons, List.map_append]
    exact ((brackets.append <| type.cons _).cons _).cons_cons _
  case aliased hi => exact (hi.cons _).cons _
  case bracketedAliased brackets type =>
    rw [List.map_append]
    exact ((brackets.append <| (type.cons _).cons _).cons _).cons _
  case last hi => exact hi
  case more spec later =>
    rw [List.map_append]
    exact spec.append <| later.cons _

theorem named (written : Written part ts sites) : ∀ site ∈ sites, site.name.kind = .name := by
  induction written
  case nil | none => nofun
  case word hi | guard hi | aliased hi | last hi => exact hi
  case group first second | declaration first second | declarations first second |
      bracketedAliased first second | more first second =>
    exact List.forall_mem_append.mpr ⟨first, second⟩
  case struct named _ _ _ _ within | other named _ _ _ within =>
    exact List.forall_mem_cons.mpr ⟨named, within⟩
  case bracketed named _ _ _ _ _ _ _ brackets within =>
    exact List.forall_mem_cons.mpr ⟨named, List.forall_mem_append.mpr ⟨brackets, within⟩⟩
  case bracketedOther named _ _ _ _ _ _ brackets type =>
    exact List.forall_mem_cons.mpr ⟨named, List.forall_mem_append.mpr ⟨brackets, type⟩⟩

theorem not_package (written : Written part ts sites) : ∀ t ∈ ts, t.isKeyword "package" = false := by
  have mark {t : Token} {c : Char} (mark : t.isMark c = true) :=
    Token.isKeyword_of_isMark mark "package"
  have name {t : Token} (named : t.kind = .name) := Token.isKeyword_of_name named "package"
  have type {t : Token} (type : t.isKeyword "type" = true) : t.isKeyword "package" = false :=
    Token.isKeyword_of_isKeyword type <| by decide
  have struct {t : Token} (struct : t.isKeyword "struct" = true) : t.isKeyword "package" = false :=
    Token.isKeyword_of_isKeyword struct <| by decide
  induction written
  case nil | none => nofun
  case last hi => exact hi
  all_goals simp only [List.forall_mem_cons, List.forall_mem_append]
  case word plain _ hi => exact ⟨plain.package, hi⟩
  case group opening closing _ _ within later =>
    exact ⟨Token.isKeyword_of_bracket (.inl opening) _, within,
      Token.isKeyword_of_bracket (.inr closing) _, later⟩
  case guard opening keyword closing _ hi => exact ⟨mark opening, type keyword, mark closing, hi⟩
  case declaration keyword _ _ spec later => exact ⟨type keyword, spec, later⟩
  case declarations keyword opening closing _ _ specs later =>
    exact ⟨type keyword, mark opening, specs, mark closing, later⟩
  case struct named keyword opening closing _ within =>
    exact ⟨name named, struct keyword, mark opening, within, mark closing, nofun⟩
  case bracketed named first _ last keyword opening closing _ brackets within =>
    exact ⟨name named, mark first, brackets, mark last, struct keyword, mark opening, within,
      mark closing, nofun⟩
  case other named _ _ _ type => exact ⟨name named, type⟩
  case bracketedOther named first _ last _ _ _ brackets type =>
    exact ⟨name named, mark first, brackets, mark last, type⟩
  case aliased named equal _ _ type => exact ⟨name named, mark equal, type⟩
  case bracketedAliased named first _ last equal _ _ brackets type =>
    exact ⟨name named, mark first, brackets, mark last, mark equal, type⟩
  case more semicolon _ spec later => exact ⟨spec, mark semicolon, later⟩

theorem exists_name (written : Written (.spec leading) ts sites) :
    ∃ name us, ts = name :: us ∧ name.kind = .name ∧ Unbroken us := by
  have semicolon {t : Token} (keyword : t.isKeyword "struct" = true) {us : List Token}
      (later : Unbroken us) : Unbroken (t :: us) := by
    obtain ⟨opening, closing, semicolon⟩ := Token.no_mark_of_kind <| Token.kind_ne_mark keyword
    exact .word opening closing semicolon later
  cases written
  case struct named keyword opening closing within =>
    refine ⟨_, _, rfl, named, semicolon keyword <| .group ?_ ?_ within.balanced .nil⟩
    case refine_1 => exact Token.isOpening_of_isMark <| .inr <| .inr opening
    case refine_2 => exact Token.isClosing_of_isMark <| .inr <| .inr closing
  case bracketed named first brackets last keyword opening closing within =>
    refine ⟨_, _, rfl, named, .group ?_ ?_ brackets.balanced <| semicolon keyword <|
      .group ?_ ?_ within.balanced .nil⟩
    case refine_1 => exact Token.isOpening_of_isMark <| .inr <| .inl first
    case refine_2 => exact Token.isClosing_of_isMark <| .inr <| .inl last
    case refine_3 => exact Token.isOpening_of_isMark <| .inr <| .inr opening
    case refine_4 => exact Token.isClosing_of_isMark <| .inr <| .inr closing
  case other named _ unbroken _ => exact ⟨_, _, rfl, named, unbroken⟩
  case bracketedOther named first brackets last _ unbroken _ =>
    refine ⟨_, _, rfl, named, .group ?_ ?_ brackets.balanced unbroken⟩
    case refine_1 => exact Token.isOpening_of_isMark <| .inr <| .inl first
    case refine_2 => exact Token.isClosing_of_isMark <| .inr <| .inl last
  case aliased named equal unbroken _ =>
    obtain ⟨opening, closing, semicolon⟩ := Token.no_bracket_of_equals equal
    exact ⟨_, _, rfl, named, .word opening closing semicolon unbroken⟩
  case bracketedAliased named first brackets last equal unbroken _ =>
    obtain ⟨opening, closing, semicolon⟩ := Token.no_bracket_of_equals equal
    refine ⟨_, _, rfl, named, .group ?_ ?_ brackets.balanced <|
      .word opening closing semicolon unbroken⟩
    case refine_1 => exact Token.isOpening_of_isMark <| .inr <| .inl first
    case refine_2 => exact Token.isClosing_of_isMark <| .inr <| .inl last

end Written

end Declarations

end FlowIndex.Host
