import FlowIndex.Flow.Token

namespace FlowIndex.Flow

structure Block where
  keyword : String
  name : Token
  start : Nat
  stop : Nat
  closed : Bool
deriving DecidableEq, Repr

-- Whether an offset lies in a block, both of its ends included.
def Block.contains (b : Block) (offset : Nat) : Bool :=
  b.start ≤ offset && offset ≤ b.stop

def nameArgument? : List Token → Option (Token × Token)
  | lpar :: arg :: rpar :: _ =>
    if lpar.isPunct '(' && rpar.isPunct ')' && arg.isName then some (arg, rpar) else none
  | _ => none

def blockHeader? : List Token → Option (Token × List Token)
  | lpar :: arg :: rpar :: lbrace :: rest =>
    if lpar.isPunct '(' && rpar.isPunct ')' && arg.isName && lbrace.isPunct '{' then
      some (arg, rest)
    else none
  | _ => none

-- The brace that closes the innermost of `depth + 1` open braces for good, and the tokens behind
-- it.
def closingBrace? : Nat → List Token → Option (Token × List Token)
  | _, [] => none
  | depth, t :: ts =>
    if t.isPunct '{' then closingBrace? (depth + 1) ts
    else if t.isPunct '}' then
      match depth with
      | 0 => some (t, ts)
      | depth + 1 => closingBrace? depth ts
    else closingBrace? depth ts

theorem length_lt_of_blockHeader? {ts rest : List Token} {name : Token}
    (h : blockHeader? ts = some (name, rest)) : rest.length < ts.length := by
  unfold blockHeader? at h
  split at h
  · split at h
    · simp only [Option.some.injEq, Prod.mk.injEq] at h
      simp [← h.2]
      omega
    · cases h
  · cases h

theorem length_lt_of_closingBrace? {depth : Nat} {ts rest : List Token} {t : Token}
    (h : closingBrace? depth ts = some (t, rest)) : rest.length < ts.length := by
  fun_induction closingBrace? depth ts <;> grind

-- Blocks such as `REGISTER("pkg") { … }`. One ends with the brace that closes its first one, or runs
-- to the end of the text. Others inside it are looked for if blocks of this keyword nest or the block
-- is not closed.
def blocks (keyword : String) (nested : Bool) (length : Nat) : List Token → List Block
  | [] => []
  | t :: ts =>
    if t.isIdent keyword then
      match _h : blockHeader? ts with
      | none => blocks keyword nested length ts
      | some (name, body) =>
        match _hc : closingBrace? 0 body with
        | none =>
          { keyword, name, start := t.start, stop := length, closed := false } ::
            blocks keyword nested length body
        | some (brace, rest) =>
          { keyword, name, start := t.start, stop := brace.stop, closed := true } ::
            blocks keyword nested length (if nested then body else rest)
    else blocks keyword nested length ts
termination_by ts => ts.length
decreasing_by
  · simp
  · simpa using Nat.lt_succ_of_lt (length_lt_of_blockHeader? _h)
  · have h₁ := length_lt_of_blockHeader? _h
    have h₂ := length_lt_of_closingBrace? _hc
    simp only [List.length_cons]
    split <;> omega
  · simp

-- Registration blocks: none is looked for inside a closed one.
def registrations (length : Nat) (ts : List Token) : List Block :=
  blocks "REGISTER" false length ts

-- Fragment blocks, those inside other fragments included.
def fragmentBlocks (length : Nat) (ts : List Token) : List Block :=
  blocks "FRAGMENT" true length ts

end FlowIndex.Flow
