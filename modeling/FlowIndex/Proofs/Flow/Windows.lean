import FlowIndex.Proofs.Flow.Entries

namespace FlowIndex.Flow

variable {length length' : Nat} {ts us front body : List Token} {t name brace : Token}
variable {b : Block}

section Windows

-- Something that is read from the first few tokens, none of which is a certain one, is read as well
-- if the text stops at that one.
theorem reads_seam {α : Type} {f : List Token → Option α} {P : List Token → α → Prop}
    (reads : ∀ ts x, f ts = some x ↔ ∃ window rest, ts = window ++ rest ∧ P window x)
    (free : ∀ window x, P window x → brace ∉ window) :
    f (front ++ brace :: us) = f (front ++ [brace]) := by
  refine Option.ext fun x => ?_
  rw [reads, reads]
  constructor
  case mp =>
    rintro ⟨window, rest, same, read⟩
    obtain ⟨mid, rfl, rfl⟩ := exists_mid same.symm <| free window x read
    exact ⟨window, mid ++ [brace], by simp, read⟩
  case mpr =>
    rintro ⟨window, rest, same, read⟩
    refine ⟨window, rest ++ us, ?_, read⟩
    rw [← List.append_assoc, ← same, List.append_assoc]
    rfl

variable (mark : brace.isPunct '}' = true)
include mark

theorem nameArgument?_seam :
    nameArgument? (front ++ brace :: us) = nameArgument? (front ++ [brace]) := by
  let P (window : List Token) (found : Token × Token) :=
    ∃ lpar, window = [lpar, found.1, found.2] ∧ lpar.isPunct '(' = true ∧
      found.2.isPunct ')' = true ∧ found.1.isName = true
  refine reads_seam (P := P) (fun ts (name, rpar) => ⟨?mp, ?mpr⟩) ?free
  case mp =>
    intro found
    obtain ⟨lpar, post, rfl, shape⟩ := nameArgument?_eq found
    exact ⟨[lpar, name, rpar], post, rfl, lpar, rfl, shape⟩
  case mpr =>
    rintro ⟨_, rest, rfl, lpar, rfl, opening, closing, named⟩
    simp [nameArgument?, opening, closing, named]
  case free =>
    rintro _ ⟨name, rpar⟩ ⟨lpar, rfl, opening, closing, named⟩
    simp [ne_of_isPunct mark opening (by decide), ne_of_isName mark named,
      ne_of_isPunct mark closing (by decide)]

theorem read?_seam (package : String) (t : Token) :
    Entry.read? package t (front ++ brace :: us) = Entry.read? package t (front ++ [brace]) := by
  refine reads_seam (P := fun args e => ∃ a, Spelled args a ∧ e = a.entry package t)
    (fun ts e => ⟨?mp, ?mpr⟩) ?free
  case mp =>
    intro read
    obtain ⟨args, rest, a, split, spelled⟩ := spelled_of_read? read
    exact ⟨args, rest, split, a, spelled⟩
  case mpr =>
    rintro ⟨args, rest, rfl, a, spelled, rfl⟩
    exact spelled.read? package t rest
  case free =>
    rintro args e ⟨a, spelled, _⟩
    exact spelled.notMem_of_isPunct mark

-- The header of a block either stands before the brace or is none.
theorem blockHeader?_seam (headless : blockHeader? (front ++ [brace]) = none) (us : List Token) :
    blockHeader? (front ++ brace :: us) = none := by
  refine Option.eq_none_iff_forall_ne_some.mpr fun (name, body) header => ?_
  obtain ⟨lpar, rpar, lbrace, same, hl, hn, hr, hb⟩ := blockHeader?_eq_some_iff.mp header
  have free : brace ∉ [lpar, name, rpar, lbrace] := by
    simp [ne_of_isPunct mark hl (by decide), ne_of_isName mark hn,
      ne_of_isPunct mark hr (by decide), ne_of_isPunct mark hb (by decide)]
  have split : [lpar, name, rpar, lbrace] ++ body = front ++ brace :: us := same.symm
  obtain ⟨mid, rfl, _⟩ := exists_mid split free
  have found : blockHeader? ([lpar, name, rpar, lbrace] ++ mid ++ [brace]) =
      some (name, mid ++ [brace]) :=
    blockHeader?_eq_some_iff.mpr ⟨lpar, rpar, lbrace, by simp, hl, hn, hr, hb⟩
  rw [headless] at found
  cases found

end Windows

section Seams

-- Tokens that end with a closing brace, if there are any.
def Ends (ts : List Token) : Prop :=
  ∀ t ∈ ts.getLast?, t.isPunct '}' = true

theorem Ends.suffix {ts' : List Token} (ends : Ends ts) (suffix : ts' <:+ ts) : Ends ts' := by
  obtain ⟨front, rfl⟩ := suffix
  intro t last
  refine ends t ?_
  rw [List.getLast?_append, last]
  rfl

theorem Ends.behind {keyword : String} (ends : Ends (t :: ts))
    (ident : t.isIdent keyword = true) :
    ∃ front brace, ts = front ++ [brace] ∧ brace.isPunct '}' = true := by
  obtain rfl | ⟨front, brace, rfl⟩ := List.eq_nil_or_concat ts
  case inl => exact absurd rfl <| ne_of_isIdent (ends t rfl) ident
  case inr =>
    rw [List.concat_eq_append] at ends ⊢
    exact ⟨front, brace, rfl, ends brace <| List.getLast?_concat (l := t :: front)⟩

theorem blockHeader?_more (header : blockHeader? ts = some (name, body)) (us : List Token) :
    blockHeader? (ts ++ us) = some (name, body ++ us) := by
  obtain ⟨lpar, rpar, lbrace, rfl, shape⟩ := blockHeader?_eq_some_iff.mp header
  exact blockHeader?_eq_some_iff.mpr ⟨lpar, rpar, lbrace, rfl, shape⟩

theorem closingBrace?_more {depth : Nat} {rest : List Token}
    (closing : closingBrace? depth ts = some (brace, rest)) (us : List Token) :
    closingBrace? depth (ts ++ us) = some (brace, rest ++ us) := by
  fun_induction closingBrace? depth ts
  case case1 => cases closing
  case case2 depth t ts opening hi =>
    rw [List.cons_append, closingBrace?_opening opening, hi closing]
  case case3 t ts opening mark =>
    cases closing
    exact (closingBrace?_closing mark _).1
  case case4 t ts opening mark depth hi =>
    rw [List.cons_append, (closingBrace?_closing mark _).2, hi closing]
  case case5 depth t ts opening mark hi =>
    rw [List.cons_append, closingBrace?_other (by simpa using opening) (by simpa using mark),
      hi closing]

theorem blocks_seam {keyword : String} {nested : Bool} (ends : Ends ts)
    (closed : ∀ b ∈ blocks keyword nested length ts, b.closed = true) (us : List Token) :
    blocks keyword nested length' (ts ++ us) =
      blocks keyword nested length ts ++ blocks keyword nested length' us := by
  fun_induction blocks keyword nested length ts
  case case1 => rfl
  case case2 t ts ident headless hi =>
    obtain ⟨front, brace, rfl, mark⟩ := ends.behind ident
    have header := blockHeader?_seam mark headless us
    rw [← hi (ends.suffix <| List.suffix_cons _ _) closed, List.cons_append, List.append_assoc]
    exact blocks_headless ident header
  case case3 t ts ident name body header closing hi =>
    cases closed _ List.mem_cons_self
  case case4 t ts ident name body header brace rest closing hi =>
    obtain ⟨lpar, rpar, lbrace, tokens⟩ := blockHeader?_eq header
    obtain ⟨_, inner, split⟩ := closingBrace?_eq closing
    have inside : body <:+ t :: ts := ⟨[t, lpar, name, rpar, lbrace], by simp [tokens]⟩
    have behind : rest <:+ body := ⟨inner ++ [brace], by simp [split]⟩
    have later : ∀ b ∈ blocks keyword nested length (if nested then body else rest),
        b.closed = true := fun b mem => closed b <| List.mem_cons_of_mem _ mem
    rw [List.cons_append, blocks_cons ident (blockHeader?_more header us)
      (closingBrace?_more closing us), List.cons_append]
    cases nested
    case false => exact congrArg _ <| hi (ends.suffix <| behind.trans inside) later
    case true => exact congrArg _ <| hi (ends.suffix inside) later
  case case5 t ts other hi =>
    rw [List.cons_append, blocks, if_neg other]
    exact hi (ends.suffix <| List.suffix_cons _ _) closed

theorem entriesIn_seam (ends : Ends ts) (b : Block) (us : List Token) :
    entriesIn b (ts ++ us) = entriesIn b ts ++ entriesIn b us := by
  induction ts
  case nil => rfl
  case cons t ts hi =>
    have later := hi <| ends.suffix <| List.suffix_cons _ _
    rw [List.cons_append, entriesIn, entriesIn, later]
    split
    case isFalse => rfl
    case isTrue entry =>
      simp only [Bool.and_eq_true] at entry
      obtain ⟨front, brace, rfl, mark⟩ := ends.behind entry.2
      rw [List.append_assoc, List.singleton_append, read?_seam mark]
      cases Entry.read? b.name.value t (front ++ [brace])
      case none => rfl
      case some e => rfl

theorem expansionsIn_seam (ends : Ends ts) (us : List Token) : Document.expansionsIn (ts ++ us) =
    Document.expansionsIn ts ++ Document.expansionsIn us := by
  induction ts
  case nil => rfl
  case cons t ts hi =>
    have later := hi <| ends.suffix <| List.suffix_cons _ _
    rw [List.cons_append, Document.expansionsIn, Document.expansionsIn, later]
    split
    case isFalse => rfl
    case isTrue ident =>
      obtain ⟨front, brace, rfl, mark⟩ := ends.behind ident
      rw [List.append_assoc, List.singleton_append, nameArgument?_seam mark]
      cases nameArgument? (front ++ [brace])
      case none => rfl
      case some found => rfl

theorem calledIn_seam (ends : Ends ts) (us : List Token) :
    Document.calledIn (ts ++ us) = Document.calledIn ts ++ Document.calledIn us := by
  induction ts
  case nil => rfl
  case cons t ts hi =>
    have later := hi <| ends.suffix <| List.suffix_cons _ _
    cases ts
    case nil =>
      have mark := Word.kind_of_isPunct <| ends t rfl
      cases us
      case nil => rfl
      case cons u us => simp [Document.calledIn, mark]
    case cons next ts =>
      rw [List.cons_append] at later
      rw [List.cons_append, List.cons_append, Document.calledIn, Document.calledIn, later]
      split <;> rfl

end Seams

end FlowIndex.Flow
