import FlowIndex.Proofs.Host.Code
import Mathlib.Data.List.TakeWhile

namespace FlowIndex.Host

variable {ts us vs rest : List Token} {t t' b b' word name : Token} {leading : Bool} {place : Place}
  {part : Part} {site : Site} {sites own inside : List Site}

section Specifications

theorem Token.isLineEnd_eq_false (other : t.isMark ';' = false) : t.isLineEnd = false := by
  simp [isLineEnd, other]

theorem dropWhile_isLineEnd (other : t.isLineEnd = false) :
    (t :: ts).dropWhile (·.isLineEnd) = t :: ts := by
  rw [List.dropWhile_cons, if_neg (by simp [other])]

theorem bracketed?_of_isMark (first : b.isMark '[' = true) (balanced : Balanced vs)
    (last : b'.isMark ']' = true) (ts : List Token) :
    bracketed? '[' (b :: (vs ++ b' :: ts)) = some (vs, ts) := by
  have closing := Token.isClosing_of_isMark (t := b') <| .inr <| .inl last
  rw [bracketed?, if_pos first, balanced.splitClosing_eq closing, Option.map_some]

theorem bracketed?_of_not_isMark (other : t.isMark '[' = false) (ts : List Token) :
    bracketed? '[' (t :: ts) = none := by
  rw [bracketed?, if_neg (by simp [other])]

theorem structEnd?_of_isKeyword (keyword : word.isKeyword "struct" = true)
    (opening : t.isMark '{' = true) (balanced : Balanced us) (closing : t'.isMark '}' = true)
    (rest : List Token) : structEnd? (word :: t :: (us ++ t' :: rest)) = some t'.stop := by
  have closing := Token.isClosing_of_isMark (t := t') <| .inr <| .inr closing
  rw [structEnd?, if_pos (by simp [keyword, opening]), balanced.splitClosing_eq closing,
    Option.map_some]

theorem structEnd?_of_not_isKeyword (other : t.isKeyword "struct" = false) (ts : List Token) :
    structEnd? (t :: ts) = none := by
  unfold structEnd?
  split
  case h_1 struct brace rest same =>
    cases same
    simp [other]
  case h_2 => rfl

theorem Token.isMark_eq_false_of_isKeyword {w : String} (keyword : t.isKeyword w = true) (c : Char) :
    t.isMark c = false := by
  simp [isMark, kind_ne_mark keyword]

theorem spec?_of_isMark {c : Char} (mark : t.isMark c = true) (ts : List Token) :
    spec? leading (t :: ts) = none := by
  rw [spec?, if_neg (by simp [Token.kind_of_isMark mark])]

-- The two ways in which a specification begins: with the type right behind the name, and with something
-- in square brackets between them.
theorem spec?_plain (named : name.kind = .name) (line : t.isLineEnd = false)
    (bracket : t.isMark '[' = false) (ts : List Token) : spec? leading (name :: t :: ts) =
      if t.isMark '=' then none else some ⟨name, false, structEnd? (t :: ts)⟩ := by
  rw [spec?, if_pos named, dropWhile_isLineEnd line]
  dsimp only
  rw [bracketed?_of_not_isMark bracket, List.head?_cons, Option.any_some]

theorem spec?_brackets (named : name.kind = .name) (first : b.isMark '[' = true)
    (brackets : Balanced vs) (last : b'.isMark ']' = true) (line : t.isLineEnd = false)
    (ts : List Token) : spec? leading (name :: b :: (vs ++ b' :: t :: ts)) =
      if t.isMark '=' then none
      else some (bracketedSpec leading name (b :: (vs ++ b' :: t :: ts)) (t :: ts)) := by
  have line' := Token.isMark_eq_false first (d := ';') <| by decide
  rw [spec?, if_pos named, dropWhile_isLineEnd (Token.isLineEnd_eq_false line')]
  dsimp only
  rw [bracketed?_of_isMark first brackets last]
  dsimp only
  rw [dropWhile_isLineEnd line, List.head?_cons, Option.any_some]

theorem spec?_struct (named : name.kind = .name) (keyword : word.isKeyword "struct" = true)
    (opening : t.isMark '{' = true) (balanced : Balanced us) (closing : t'.isMark '}' = true)
    (rest : List Token) :
    spec? leading (name :: word :: t :: (us ++ t' :: rest)) =
      some ⟨name, false, some t'.stop⟩ := by
  have mark := Token.isMark_eq_false_of_isKeyword keyword
  rw [spec?_plain named (Token.isLineEnd_eq_false <| mark ';') (mark '['), mark '=',
    structEnd?_of_isKeyword keyword opening balanced closing]
  rfl

theorem Ordered.start_le_stop (ordered : Ordered ts) (mem : t ∈ ts) : t.start ≤ t.stop := by
  obtain filled | line := ordered.filled t mem
  case inl => exact Nat.le_of_lt filled
  case inr =>
    simp only [Token.isLineEnd, Bool.and_eq_true, decide_eq_true_eq] at line
    exact Nat.le_of_eq line.2

-- Up to where a token stops, nothing stands behind it but line ends.
theorem specified_takeWhile (ordered : Ordered (us ++ t' :: rest)) :
    specified ((us ++ t' :: rest).takeWhile (·.stop ≤ t'.stop)) = specified (us ++ [t']) := by
  obtain ⟨_, own, apart⟩ := List.pairwise_append.mp ordered.apart
  have within : ∀ t ∈ us ++ [t'], decide (t.stop ≤ t'.stop) = true := by
    intro t mem
    refine decide_eq_true ?_
    obtain mem | mem := List.mem_append.mp mem
    case inl =>
      refine Nat.le_trans (apart t mem t' List.mem_cons_self) ?_
      exact ordered.start_le_stop <| List.mem_append_right us List.mem_cons_self
    case inr => exact Nat.le_of_eq <| congrArg _ <| List.mem_singleton.mp mem
  have behind : ∀ t ∈ rest.takeWhile (·.stop ≤ t'.stop), t.isLineEnd = true := by
    intro t mem
    have later := List.rel_of_pairwise_cons own <| (List.takeWhile_sublist _).mem mem
    have stop : t.stop ≤ t'.stop := by simpa using List.mem_takeWhile_imp mem
    have ordered := ordered.filled t <| List.mem_append_right us <| List.mem_cons_of_mem _ <|
      (List.takeWhile_sublist _).mem mem
    exact ordered.resolve_left <| by omega
  have none : specified (rest.takeWhile (·.stop ≤ t'.stop)) = [] :=
    List.filter_eq_nil_iff.mpr fun t mem => by simp [behind t mem]
  rw [List.append_cons, List.takeWhile_append_of_pos within, specified, List.filter_append]
  exact (congrArg _ none).trans <| List.append_nil _

theorem hasParameters_congr (same : specified ts = specified us) :
    hasParameters leading ts = hasParameters leading us := by
  unfold hasParameters
  rw [show ts.filter (!·.isLineEnd) = us.filter (!·.isLineEnd) from same]

theorem spec?_bracketed (named : name.kind = .name) (first : b.isMark '[' = true)
    (brackets : Balanced vs) (last : b'.isMark ']' = true) (keyword : word.isKeyword "struct" = true)
    (opening : t.isMark '{' = true) (balanced : Balanced us) (closing : t'.isMark '}' = true)
    (ordered : Ordered (b :: (vs ++ b' :: word :: t :: (us ++ t' :: rest)))) :
    spec? leading (name :: b :: (vs ++ b' :: word :: t :: (us ++ t' :: rest))) =
      some (if hasParameters leading (name :: b :: (vs ++ b' :: word :: t :: (us ++ [t'])))
        then ⟨name, true, some t'.stop⟩ else ⟨name, false, none⟩) := by
  have mark := Token.isMark_eq_false_of_isKeyword keyword
  have parts {rest : List Token} : b :: (vs ++ b' :: word :: t :: (us ++ t' :: rest)) =
      (b :: (vs ++ b' :: word :: t :: us)) ++ t' :: rest := by simp
  have same : hasParameters leading
      (name :: (b :: (vs ++ b' :: word :: t :: (us ++ t' :: rest))).takeWhile (·.stop ≤ t'.stop)) =
        hasParameters leading (name :: b :: (vs ++ b' :: word :: t :: (us ++ [t']))) := by
    refine hasParameters_congr ?_
    rw [parts] at ordered ⊢
    rw [parts, specified, specified, List.filter_cons, List.filter_cons]
    rw [show List.filter _ _ = _ from specified_takeWhile ordered, specified]
  rw [spec?_brackets named first brackets last (Token.isLineEnd_eq_false <| mark ';'), mark '=',
    bracketedSpec, structEnd?_of_isKeyword keyword opening balanced closing]
  dsimp only
  rw [same]
  rfl

theorem spec?_other (named : name.kind = .name) (other : OtherType us) (rest : List Token) :
    spec? leading (name :: (us ++ rest)) = some ⟨name, false, none⟩ := by
  obtain ⟨t, head, line, keyword, bracket, equal⟩ := other
  obtain ⟨us, rfl⟩ := List.head?_eq_some_iff.mp head
  rw [List.cons_append, spec?_plain named line bracket, equal, structEnd?_of_not_isKeyword keyword]
  rfl

theorem spec?_bracketedOther (named : name.kind = .name) (first : b.isMark '[' = true)
    (brackets : Balanced vs) (last : b'.isMark ']' = true)
    (other : OtherType us ∨ ∃ t ∈ us.head?, t.isMark '[' = true) (rest : List Token) :
    spec? leading (name :: b :: (vs ++ b' :: (us ++ rest))) = some ⟨name, false, none⟩ := by
  obtain ⟨t, head, line, keyword, equal⟩ : ∃ t ∈ us.head?, t.isLineEnd = false ∧
      t.isKeyword "struct" = false ∧ t.isMark '=' = false := by
    obtain ⟨t, head, line, keyword, _, equal⟩ | ⟨t, head, mark⟩ := other
    case inl => exact ⟨t, head, line, keyword, equal⟩
    case inr =>
      exact ⟨t, head, Token.isLineEnd_eq_false <| Token.isMark_eq_false mark <| by decide,
        Token.isKeyword_of_isMark mark "struct", Token.isMark_eq_false mark <| by decide⟩
  obtain ⟨us, rfl⟩ := List.head?_eq_some_iff.mp head
  rw [List.cons_append, spec?_brackets named first brackets last line, equal, bracketedSpec,
    structEnd?_of_not_isKeyword keyword]
  rfl

theorem spec?_aliased (named : name.kind = .name) (equal : t.isMark '=' = true) (ts : List Token) :
    spec? leading (name :: t :: ts) = none := by
  have line := Token.isMark_eq_false equal (d := ';') <| by decide
  have bracket := Token.isMark_eq_false equal (d := '[') <| by decide
  rw [spec?_plain named (Token.isLineEnd_eq_false line) bracket, if_pos equal]

theorem spec?_bracketedAliased (named : name.kind = .name) (first : b.isMark '[' = true)
    (brackets : Balanced vs) (last : b'.isMark ']' = true) (equal : t.isMark '=' = true)
    (ts : List Token) : spec? leading (name :: b :: (vs ++ b' :: t :: ts)) = none := by
  have line := Token.isMark_eq_false equal (d := ';') <| by decide
  rw [spec?_brackets named first brackets last (Token.isLineEnd_eq_false line), if_pos equal]

end Specifications

section Scans

-- Whether a struct at a site is found to have type parameters in front of it.
def Site.generic (site : Site) : Bool :=
  hasParameters site.leading (site.name :: site.type)

-- Whether a site declares a struct, when it is known which brackets hold type parameters.
def Site.declared (generic : Site → Bool) (site : Site) : Bool :=
  site.struct && (!site.bracketed || generic site)

-- How the specification at a site is read.
def Site.spec (site : Site) : Spec :=
  if site.declared generic then ⟨site.name, site.bracketed, some site.stop⟩ else ⟨site.name, false, none⟩

-- What is found at sites.
def found (sites : List Site) : List Spec :=
  sites.map Site.spec

theorem found_append (own inside : List Site) : found (own ++ inside) = found own ++ found inside :=
  List.map_append

theorem found_perm (perm : own.Perm inside) : (found own).Perm (found inside) :=
  perm.map _

theorem specs_cons (other : t.isKeyword "type" = false) (ts : List Token) :
    specs (t :: ts) = specs ts := by
  rw [specs.eq_def]
  simp [other]

theorem specs_type {keyword : Token} (type : keyword.isKeyword "type" = true)
    (other : t.isMark '(' = false) (ts : List Token) :
    specs (keyword :: t :: ts) = (spec? false (t :: ts)).toList ++ specs (t :: ts) := by
  rw [specs.eq_def]
  simp [type, other]

theorem specs_types {keyword : Token} (type : keyword.isKeyword "type" = true)
    (opening : t.isMark '(' = true) (ts : List Token) :
    specs (keyword :: t :: ts) = groupSpecs .leading 0 ts ++ specs (t :: ts) := by
  rw [specs.eq_def]
  simp [type, opening]

-- What a scan finds in something that is written down, and that it goes on behind it as if nothing had
-- been there.
def Scans : Part → List Token → List Site → Prop
  | .code, ts, sites => ∀ rest, Ordered (ts ++ rest) →
      (specs (ts ++ rest)).Perm (found sites ++ specs rest)
  | .spec leading, ts, sites => ∃ own inside, sites.Perm (own ++ inside) ∧
    ∀ rest, Ordered (ts ++ rest) → (spec? leading (ts ++ rest)).toList = found own ∧
        (specs (ts ++ rest)).Perm (found inside ++ specs rest)
  | .specs leading, ts, sites => ∃ own inside, sites.Perm (own ++ inside) ∧
    ∀ rest, Ordered (ts ++ rest) → (∀ close ∈ rest.head?, close.isMark ')' = true →
        groupSpecs (if leading then .leading else .fresh) 0 (ts ++ rest) = found own) ∧
        (specs (ts ++ rest)).Perm (found inside ++ specs rest)

theorem found_trans {a b c : List Spec} (first : a.Perm (found inside ++ b))
    (second : b.Perm (found sites ++ c)) : a.Perm (found (inside ++ sites) ++ c) := by
  rw [found_append, List.append_assoc]
  exact first.trans <| second.append_left _

theorem found_own {a b : List Spec} (parts : sites.Perm (own ++ inside))
    (scan : a.Perm (found inside ++ b)) : (found own ++ a).Perm (found sites ++ b) := by
  refine (scan.append_left _).trans ?_
  rw [← List.append_assoc, ← found_append]
  exact (found_perm parts.symm).append_right b

theorem groupSpecs_name (named : name.kind = .name) (leading : Bool) (unbroken : Unbroken us)
    (rest : List Token) : groupSpecs (if leading then .leading else .fresh) 0 (name :: (us ++ rest)) =
      (spec? leading (name :: (us ++ rest))).toList ++ groupSpecs .inside 0 rest := by
  obtain ⟨opening, closing, semicolon⟩ := Token.no_mark_of_kind (t := name) <| by simp [named]
  have at' : specAt? (if leading then .leading else .fresh) (name :: (us ++ rest)) =
      spec? leading (name :: (us ++ rest)) := by
    cases leading
    all_goals rfl
  rw [groupSpecs.eq_def]
  dsimp only
  rw [if_neg (by simp [opening]), if_neg (by simp [closing]), at', if_neg (by simp [semicolon]),
    unbroken.groupSpecs_append]

theorem groupSpecs_closing (closing : t.isMark ')' = true) (ts : List Token) :
    groupSpecs place 0 (t :: ts) = [] := by
  have bracket := Token.isClosing_of_isMark (t := t) <| .inl closing
  have none : specAt? place (t :: ts) = none := by
    rw [specAt?, spec?_of_isMark closing, ite_self]
  rw [groupSpecs.eq_def]
  simp [bracket, Token.isOpening_eq_false_of_isClosing bracket, none]

theorem groupSpecs_semicolon (semicolon : t.isMark ';' = true) (ts : List Token) :
    groupSpecs .inside 0 (t :: ts) = groupSpecs .fresh 0 ts := by
  have opening : t.isOpening = false := by simp [Token.isOpening, Token.isMark_eq_false semicolon]
  have closing : t.isClosing = false := by simp [Token.isClosing, Token.isMark_eq_false semicolon]
  rw [groupSpecs.eq_def]
  simp [opening, closing, semicolon, specAt?]

namespace Scans

theorem nil : Scans .code [] [] := fun _ _ => .refl _

theorem cons (other : t.isKeyword "type" = false) (later : Scans .code ts sites) :
    Scans .code (t :: ts) sites := by
  intro rest ordered
  rw [List.cons_append, specs_cons other]
  exact later rest ordered.tail

theorem append (first : Scans .code us inside) (later : Scans .code ts sites) :
    Scans .code (us ++ ts) (inside ++ sites) := by
  intro rest ordered
  rw [List.append_assoc] at ordered ⊢
  exact found_trans (first _ ordered) <| later rest ordered.of_append

theorem group (opening : t.isKeyword "type" = false) (closing : t'.isKeyword "type" = false)
    (within : Scans .code us inside) (later : Scans .code ts sites) :
    Scans .code (t :: (us ++ t' :: ts)) (inside ++ sites) :=
  .cons opening <| within.append <| later.cons closing

theorem enclosed (opening : t.isKeyword "type" = false) (closing : t'.isKeyword "type" = false)
    (within : Scans .code us inside) : Scans .code (t :: (us ++ [t'])) inside := by
  have scan := within.group opening closing .nil
  rwa [List.append_nil] at scan

theorem guard {keyword : Token} (opening : t.isMark '(' = true) (type : keyword.isKeyword "type" = true)
    (closing : t'.isMark ')' = true) (later : Scans .code ts sites) :
    Scans .code (t :: keyword :: t' :: ts) sites := by
  refine .cons (Token.isKeyword_of_isMark opening _) fun rest ordered => ?_
  rw [List.cons_append, List.cons_append] at ordered ⊢
  rw [specs_type type <| Token.isMark_eq_false closing <| by decide, spec?_of_isMark closing]
  exact later.cons (Token.isKeyword_of_isMark closing _) rest ordered.tail

theorem declaration {keyword : Token} (type : keyword.isKeyword "type" = true)
    (spec : Written (.spec false) us inside) (finds : Scans (.spec false) us inside)
    (later : Scans .code ts sites) : Scans .code (keyword :: (us ++ ts)) (inside ++ sites) := by
  intro rest ordered
  obtain ⟨name, us, rfl, named, _⟩ := spec.exists_name
  obtain ⟨own, inside, parts, scan⟩ := finds
  rw [List.cons_append, List.append_assoc] at ordered ⊢
  obtain ⟨head, scan⟩ := scan _ ordered.tail
  rw [List.cons_append] at head ⊢
  rw [specs_type type (by simp [Token.isMark, named]), head]
  exact found_trans (found_own parts scan) <| later rest ordered.tail.of_append

theorem declarations {keyword : Token} (type : keyword.isKeyword "type" = true)
    (opening : t.isMark '(' = true) (closing : t'.isMark ')' = true)
    (finds : Scans (.specs true) us inside) (later : Scans .code ts sites) :
    Scans .code (keyword :: t :: (us ++ t' :: ts)) (inside ++ sites) := by
  intro rest ordered
  obtain ⟨own, inside, parts, scan⟩ := finds
  rw [List.cons_append, List.cons_append, List.append_assoc, List.cons_append] at ordered ⊢
  obtain ⟨heads, scan⟩ := scan _ ordered.tail.tail
  rw [specs_types type opening, specs_cons <| Token.isKeyword_of_isMark opening _]
  rw [show groupSpecs .leading 0 _ = _ from heads _ rfl closing]
  refine found_trans (found_own parts scan) ?_
  exact later.cons (Token.isKeyword_of_isMark closing _) rest ordered.tail.tail.of_append

theorem spec (own : List Site) (parts : sites.Perm (own ++ inside))
    (head : ∀ rest, Ordered (ts ++ rest) → (spec? leading (ts ++ rest)).toList = found own)
    (code : Scans .code ts inside) : Scans (.spec leading) ts sites :=
  ⟨own, inside, parts, fun rest ordered => ⟨head rest ordered, code rest ordered⟩⟩

theorem last (spec : Written (.spec leading) us sites) (finds : Scans (.spec leading) us sites) :
    Scans (.specs leading) us sites := by
  obtain ⟨name, us, rfl, named, unbroken⟩ := spec.exists_name
  obtain ⟨own, inside, parts, scan⟩ := finds
  refine ⟨own, inside, parts, fun rest ordered => ⟨fun close head closing => ?_, ?_⟩⟩
  case refine_1 =>
    have heads := (scan rest ordered).1
    obtain ⟨rest, rfl⟩ := List.head?_eq_some_iff.mp head
    rw [List.cons_append] at heads ⊢
    rw [groupSpecs_name named _ unbroken, heads, groupSpecs_closing closing, List.append_nil]
  case refine_2 => exact (scan rest ordered).2

theorem more (spec : Written (.spec leading) us inside) (semicolon : t.isMark ';' = true)
    (finds : Scans (.spec leading) us inside) (later : Scans (.specs false) ts sites) :
    Scans (.specs leading) (us ++ t :: ts) (inside ++ sites) := by
  obtain ⟨name, us, rfl, named, unbroken⟩ := spec.exists_name
  obtain ⟨own, inside, parts, scan⟩ := finds
  obtain ⟨own', inside', parts', scan'⟩ := later
  refine ⟨own ++ own', inside ++ inside', ?_, fun rest ordered => ?_⟩
  case refine_1 =>
    refine (parts.append parts').trans ?_
    rw [List.append_assoc, List.append_assoc]
    exact .append_left own <| List.perm_append_comm_assoc inside own' inside'
  case refine_2 =>
    simp only [List.cons_append, List.append_assoc] at ordered ⊢
    obtain ⟨head, first⟩ := scan _ ordered
    obtain ⟨heads, second⟩ := scan' _ ordered.tail.of_append.tail
    refine ⟨fun close listed closing => ?_, ?_⟩
    case refine_1 =>
      rw [List.cons_append] at head
      rw [groupSpecs_name named _ unbroken, head, groupSpecs_semicolon semicolon]
      rw [show groupSpecs .fresh 0 _ = _ from heads close listed closing, found_append]
    case refine_2 =>
      rw [specs_cons <| Token.isKeyword_of_isMark semicolon _] at first
      exact found_trans first second

end Scans

theorem Written.scans (written : Written part ts sites) : Scans part ts sites := by
  induction written
  case nil => exact .nil
  case word plain _ hi => exact hi.cons plain.type
  case group opening closing _ _ within later =>
    exact within.group (Token.isKeyword_of_bracket (.inl opening) _)
      (Token.isKeyword_of_bracket (.inr closing) _) later
  case guard opening type closing _ hi => exact hi.guard opening type closing
  case declaration type spec _ finds later => exact .declaration type spec finds later
  case declarations type opening closing _ _ finds later =>
    exact .declarations type opening closing finds later
  case struct name word t t' us leading sites named keyword opening closing written within =>
    have code : Scans .code (name :: word :: t :: (us ++ [t'])) sites :=
      .cons (Token.isKeyword_of_name named _) <|
        .cons (Token.isKeyword_of_isKeyword keyword <| by decide) <|
          within.enclosed (Token.isKeyword_of_isMark opening _) (Token.isKeyword_of_isMark closing _)
    refine .spec [_] (.refl _) (fun rest _ => ?_) code
    simp only [List.cons_append, List.append_assoc, List.nil_append]
    rw [spec?_struct named keyword opening written.balanced closing]
    rfl
  case bracketed name word t t' b b' us vs leading inside sites named first brackets last keyword opening
      closing written within later =>
    have code : Scans .code (name :: b :: (vs ++ b' :: word :: t :: (us ++ [t']))) (inside ++ sites) :=
      .cons (Token.isKeyword_of_name named _) <|
        within.group (Token.isKeyword_of_isMark first _) (Token.isKeyword_of_isMark last _) <|
          .cons (Token.isKeyword_of_isKeyword keyword <| by decide) <|
            later.enclosed (Token.isKeyword_of_isMark opening _) (Token.isKeyword_of_isMark closing _)
    refine .spec [_] (.refl _) (fun rest ordered => ?_) code
    simp only [List.cons_append, List.append_assoc, List.nil_append] at ordered ⊢
    rw [spec?_bracketed named first brackets.balanced last keyword opening written.balanced closing
      ordered.tail]
    rfl
  case other name us leading sites named other unbroken written type =>
    refine .spec [_] (.refl _) (fun rest _ => ?_) <| type.cons <| Token.isKeyword_of_name named _
    rw [List.cons_append, spec?_other named other]
    rfl
  case bracketedOther name b b' us vs leading inside sites named first brackets last other unbroken
      written within type =>
    have code : Scans .code (name :: b :: (vs ++ b' :: us)) (inside ++ sites) :=
      .cons (Token.isKeyword_of_name named _) <|
        within.group (Token.isKeyword_of_isMark first _) (Token.isKeyword_of_isMark last _) type
    refine .spec [_] (.refl _) (fun rest _ => ?_) code
    rw [List.cons_append, List.cons_append, List.append_assoc, List.cons_append,
      spec?_bracketedOther named first brackets.balanced last other]
    rfl
  case aliased name equals us leading sites named equal unbroken written type =>
    refine .spec [] (.refl _) (fun rest _ => ?_) <|
      .cons (Token.isKeyword_of_name named _) <| type.cons <| Token.isKeyword_of_isMark equal _
    rw [List.cons_append, List.cons_append, spec?_aliased named equal]
    rfl
  case bracketedAliased name equals b b' us vs leading inside sites named first brackets last equal
      unbroken written within type =>
    have code : Scans .code (name :: b :: (vs ++ b' :: equals :: us)) (inside ++ sites) :=
      .cons (Token.isKeyword_of_name named _) <|
        within.group (Token.isKeyword_of_isMark first _) (Token.isKeyword_of_isMark last _) <|
          type.cons <| Token.isKeyword_of_isMark equal _
    refine .spec [] (.refl _) (fun rest _ => ?_) code
    simp only [List.cons_append, List.append_assoc]
    rw [spec?_bracketedAliased named first brackets.balanced last equal]
    rfl
  case none =>
    refine ⟨[], [], .refl _, fun rest _ => ⟨fun close head closing => ?_, .refl _⟩⟩
    obtain ⟨rest, rfl⟩ := List.head?_eq_some_iff.mp head
    exact groupSpecs_closing closing rest
  case last spec finds => exact .last spec finds
  case more spec semicolon _ finds later => exact .more spec semicolon finds later

end Scans

section Files

-- The source of a file: perhaps a package clause, which names the package, and code behind it.
inductive File : List Token → Option Token → List Site → Prop
  | package {keyword name : Token} {ts : List Token} {sites : List Site}
      (package : keyword.isKeyword "package" = true) (named : name.kind = .name)
      (code : Written .code ts sites) : File (keyword :: name :: ts) (some name) sites
  | bare {ts : List Token} {sites : List Site} (code : Written .code ts sites) : File ts none sites

variable {clause : Option Token} {cs : List Char}

theorem packageClause?_eq_none (none : ∀ t ∈ ts, t.isKeyword "package" = false) :
    packageClause? ts = .none := by
  induction ts
  case nil => rfl
  case cons t ts hi =>
    cases ts
    case nil => rfl
    case cons name ts =>
      rw [packageClause?, if_neg (by simp [none t List.mem_cons_self])]
      exact hi fun t mem => none t <| List.mem_cons_of_mem _ mem

namespace File

theorem packageClause?_eq (file : File ts clause sites) : packageClause? ts = clause := by
  cases file
  case package package named code => rw [packageClause?, if_pos (by simp [package, named])]
  case bare code => exact packageClause?_eq_none code.not_package

theorem names (file : File ts clause sites) : (sites.map (·.name)).Sublist ts := by
  cases file
  case package code => exact (code.names.cons _).cons _
  case bare code => exact code.names

theorem specs_perm (file : File ts clause sites) (ordered : Ordered ts) :
    (specs ts).Perm (found sites) := by
  have scan {ts : List Token} (code : Written .code ts sites) (ordered : Ordered ts) :
      (specs ts).Perm (found sites) := by
    have scan := code.scans [] (by rwa [List.append_nil])
    rwa [List.append_nil, specs, List.append_nil] at scan
  cases file
  case package package named code =>
    rw [specs_cons <| Token.isKeyword_of_isKeyword package <| by decide,
      specs_cons <| Token.isKeyword_of_name named _]
    exact scan code ordered.tail.tail
  case bare code => exact scan code ordered

theorem named (file : File ts clause sites) : ∀ site ∈ sites, site.name.kind = .name := by
  cases file
  case package code => exact code.named
  case bare code => exact code.named

theorem pairwise_start (file : File ts clause sites) (ordered : Ordered ts) :
    sites.Pairwise fun a b => a.name.start < b.name.start := by
  have apart := List.pairwise_map.mp <| ordered.apart.sublist file.names
  refine apart.imp_of_mem fun {a b} first _ before => Nat.lt_of_lt_of_le ?_ before
  have line : a.name.isLineEnd = false :=
    Token.isLineEnd_eq_false <| (Token.no_mark_of_kind <| by simp [file.named a first]).2.2
  have mem := file.names.mem <| List.mem_map_of_mem first
  exact (ordered.filled _ mem).resolve_right <| by simp [line]

end File

end Files

end FlowIndex.Host
