import FlowIndex.Flow.Block

namespace FlowIndex.Flow

structure Entry where
  package : String
  path : Token
  struct : Token
  name : Option Token
  sequence : Token
  start : Nat
  stop : Nat
deriving DecidableEq, Repr

def Entry.nameToken (e : Entry) : Token :=
  e.name.getD e.struct

-- Reads the arguments of an entry such as `OPERATOR("path", "Struct", "name", 7)`, whose name may be
-- left out and is then the struct's.
def Entry.read? (package : String) (operator : Token) : List Token → Option Entry
  | lpar :: path :: comma₁ :: struct :: comma₂ :: third :: next :: rest =>
    if lpar.isPunct '(' && path.isName && comma₁.isPunct ',' && struct.isName &&
        comma₂.isPunct ',' then
      if third.kind = .number && next.isPunct ')' then
        some { package, path, struct, name := none, sequence := third, start := operator.start,
               stop := next.stop }
      else
        match rest with
        | sequence :: rpar :: _ =>
          if third.isName && next.isPunct ',' && sequence.kind = .number && rpar.isPunct ')' then
            some { package, path, struct, name := some third, sequence, start := operator.start,
                   stop := rpar.stop }
          else none
        | _ => none
    else none
  | _ => none

def entriesIn (b : Block) : List Token → List Entry
  | [] => []
  | t :: ts =>
    if b.start < t.start && t.start < b.stop && t.isIdent "OPERATOR" then
      match Entry.read? b.name.value t ts with
      | none => entriesIn b ts
      | some e => e :: entriesIn b ts
    else entriesIn b ts

def entries (length : Nat) (ts : List Token) : List Entry :=
  (registrations length ts).flatMap (entriesIn · ts)

end FlowIndex.Flow
