import FlowIndex.Flow.Document

namespace FlowIndex.Flow

inductive SymbolKind
  | struct
  | fragment
  | operator
  | keyword
deriving DecidableEq, Repr

-- What a cursor points at: a name and the kind of declaration to look for.
structure Target where
  kind : SymbolKind
  name : String
  span : Span
deriving DecidableEq, Repr

-- The token at an offset; `candidate` is the last word seen so far that ends there, which comes before
-- a mark that starts there.
def tokenAt (offset : Nat) (candidate : Option Token) : List Token → Option Token
  | [] => candidate
  | t :: ts =>
    if offset < t.start then candidate
    else if offset < t.stop then
      if t.kind = .punct then candidate.or (some t) else some t
    else if t.stop = offset && t.kind ≠ .punct then tokenAt offset (some t) ts
    else tokenAt offset candidate ts

namespace Document

def targetOf (d : Document) (t : Token) : Option Target :=
  match t.kind with
  | .string =>
    if d.entries.any (·.struct.start = t.start) then
      some ⟨.struct, t.value, d.nameSpan t⟩
    else if (expansionsIn d.tokens).any (·.1.start = t.start) then
      some ⟨.fragment, t.value, d.nameSpan t⟩
    else none
  | .ident =>
    if isKeyword t.value then some ⟨.keyword, t.value, d.tokenSpan t⟩
    else if d.inRegistration t.start then none
    else some ⟨.operator, t.value, d.tokenSpan t⟩
  | _ => none

def targetAt (d : Document) (p : Position) : Option Target :=
  (tokenAt (d.lines.offset p) none d.tokens).bind d.targetOf

end Document

end FlowIndex.Flow
