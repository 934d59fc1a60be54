import FlowIndex.Proofs.Flow.Reading

namespace FlowIndex.Flow

variable {length k : Nat} {ts : List Token} {t : Token}

section Moves

def Token.shift (k : Nat) (t : Token) : Token :=
  { t with start := t.start + k, stop := t.stop + k }

@[simp]
theorem Token.toWord_shift (k : Nat) (t : Token) : (t.shift k).toWord = t.toWord :=
  rfl

def Block.shift (k : Nat) (b : Block) : Block :=
  { b with name := b.name.shift k, start := b.start + k, stop := b.stop + k }

def Entry.shift (k : Nat) (e : Entry) : Entry where
  package := e.package
  path := e.path.shift k
  struct := e.struct.shift k
  name := e.name.map (·.shift k)
  sequence := e.sequence.shift k
  start := e.start + k
  stop := e.stop + k

theorem tokensFrom_add (o k : Nat) (ls : List Lexeme) :
    tokensFrom (o + k) ls = (tokensFrom o ls).map (·.shift k) := by
  induction ls generalizing o
  case nil => rfl
  case cons l ls hi =>
    simp only [tokensFrom, Nat.add_right_comm o k, hi]
    cases l.word?
    case none => rfl
    case some w => rfl

end Moves

section Searches

theorem blockHeader?_shift (k : Nat) (ts : List Token) : blockHeader? (ts.map (·.shift k)) =
    (blockHeader? ts).map fun (name, body) => (name.shift k, body.map (·.shift k)) := by
  match ts with
  | [] | [_] | [_, _] | [_, _, _] => rfl
  | lpar :: name :: rpar :: lbrace :: body =>
    rw [blockHeader?, apply_ite (Option.map _)]
    rfl

theorem nameArgument?_shift (k : Nat) (ts : List Token) : nameArgument? (ts.map (·.shift k)) =
    (nameArgument? ts).map fun (name, rpar) => (name.shift k, rpar.shift k) := by
  match ts with
  | [] | [_] | [_, _] => rfl
  | lpar :: name :: rpar :: rest =>
    rw [nameArgument?, apply_ite (Option.map _)]
    rfl

theorem closingBrace?_shift (k depth : Nat) (ts : List Token) :
    closingBrace? depth (ts.map (·.shift k)) =
      (closingBrace? depth ts).map fun (brace, rest) => (brace.shift k, rest.map (·.shift k)) := by
  induction ts generalizing depth
  case nil => rfl
  case cons t ts hi =>
    simp only [List.map_cons, closingBrace?, Token.toWord_shift, hi]
    cases depth
    all_goals
      split
      case isTrue => rfl
      case isFalse => split <;> rfl

theorem read?_shift (k : Nat) (package : String) (t : Token) (ts : List Token) :
    Entry.read? package (t.shift k) (ts.map (·.shift k)) =
      (Entry.read? package t ts).map (·.shift k) := by
  match ts with
  | [] | [_] | [_, _] | [_, _, _] | [_, _, _, _] | [_, _, _, _, _] | [_, _, _, _, _, _] => rfl
  | [_, _, _, _, _, _, _] | [_, _, _, _, _, _, _, _] =>
    simp only [Entry.read?, apply_ite (Option.map _)]
    rfl
  | _ :: _ :: _ :: _ :: _ :: _ :: _ :: _ :: _ :: _ =>
    simp only [Entry.read?, apply_ite (Option.map _)]
    rfl

end Searches

section Collections

theorem blocks_shift (keyword : String) (nested : Bool) (k : Nat) (ts : List Token) :
    blocks keyword nested (length + k) (ts.map (·.shift k)) =
      (blocks keyword nested length ts).map (·.shift k) := by
  fun_induction blocks keyword nested length ts
  case case1 => rw [List.map_nil, blocks, List.map_nil]
  case case2 t ts ident none hi =>
    have header := blockHeader?_shift k ts
    rw [none] at header
    rw [List.map_cons, blocks_headless (t := t.shift k) ident header, hi]
  case case3 t ts ident name body some closing hi =>
    have header := blockHeader?_shift k ts
    have search := closingBrace?_shift k 0 body
    rw [some] at header
    rw [closing] at search
    rw [List.map_cons, blocks_open (t := t.shift k) ident header search, hi]
    rfl
  case case4 t ts ident name body some brace rest closing hi =>
    have header := blockHeader?_shift k ts
    have search := closingBrace?_shift k 0 body
    rw [some] at header
    rw [closing] at search
    rw [List.map_cons, blocks_cons (t := t.shift k) ident header search, List.map_cons]
    cases nested
    all_goals exact congrArg (List.cons _) hi
  case case5 t ts other hi =>
    rw [List.map_cons, blocks, Token.toWord_shift, if_neg other, hi]

theorem entriesIn_shift (k : Nat) (b : Block) (ts : List Token) :
    entriesIn (b.shift k) (ts.map (·.shift k)) = (entriesIn b ts).map (·.shift k) := by
  induction ts
  case nil => rfl
  case cons t ts hi =>
    have inside : ((b.shift k).start < (t.shift k).start && (t.shift k).start < (b.shift k).stop) =
        (b.start < t.start && t.start < b.stop) := by
      simp [Block.shift, Token.shift]
    have read : Entry.read? (b.shift k).name.value (t.shift k) (ts.map (·.shift k)) =
        (Entry.read? b.name.value t ts).map (·.shift k) := read?_shift k b.name.value t ts
    rw [List.map_cons, entriesIn, entriesIn, inside, Token.toWord_shift, read, hi]
    split
    case isFalse => rfl
    case isTrue =>
      cases Entry.read? b.name.value t ts
      case none => rfl
      case some e => rfl

theorem expansionsIn_shift (k : Nat) (ts : List Token) :
    Document.expansionsIn (ts.map (·.shift k)) = (Document.expansionsIn ts).map
      fun (name, start, stop) => (name.shift k, start + k, stop + k) := by
  induction ts
  case nil => rfl
  case cons t ts hi =>
    rw [List.map_cons, Document.expansionsIn, Document.expansionsIn, Token.toWord_shift,
      nameArgument?_shift, hi]
    split
    case isFalse => rfl
    case isTrue =>
      cases nameArgument? ts
      case none => rfl
      case some found => rfl

theorem calledIn_shift (k : Nat) (ts : List Token) :
    Document.calledIn (ts.map (·.shift k)) = (Document.calledIn ts).map (·.shift k) := by
  induction ts
  case nil => rfl
  case cons t ts hi =>
    cases ts
    case nil => rfl
    case cons next ts =>
      rw [List.map_cons] at hi
      rw [List.map_cons, List.map_cons, Document.calledIn, Document.calledIn, hi,
        apply_ite (List.map _)]
      rfl

end Collections

end FlowIndex.Flow
