import FlowIndex.Flow.Entry
import FlowIndex.Flow.Keyword
import FlowIndex.LineIndex

namespace FlowIndex

structure Operator where
  name : String
  struct : String
  package : String
  path : String
  sequence : Nat
  uri : String
  span : Span
  structSpan : Span
deriving DecidableEq, Repr

structure Fragment where
  name : String
  uri : String
  span : Span
  nameSpan : Span
deriving DecidableEq, Repr

namespace Flow

structure Expansion where
  name : String
  span : Span
  nameSpan : Span
deriving DecidableEq, Repr

structure Call where
  name : String
  span : Span
deriving DecidableEq, Repr

structure Document where
  uri : String
  length : Nat
  lines : LineIndex
  tokens : List Token
deriving Repr

namespace Document

def ofText (uri text : String) : Document :=
  let cs := text.toList
  { uri, length := cs.length, lines := .ofChars cs, tokens := Flow.tokens cs }

def nameSpan (d : Document) (t : Token) : Span :=
  d.lines.span (t.start + 1) (if t.closed then t.stop - 1 else t.stop)

def tokenSpan (d : Document) (t : Token) : Span :=
  d.lines.span t.start t.stop

def blockSpan (d : Document) (b : Block) : Span :=
  d.lines.span b.start b.stop

def registrations (d : Document) : List Block :=
  Flow.registrations d.length d.tokens

def fragmentBlocks (d : Document) : List Block :=
  Flow.fragmentBlocks d.length d.tokens

def entries (d : Document) : List Entry :=
  Flow.entries d.length d.tokens

def inRegistration (d : Document) (offset : Nat) : Bool :=
  d.registrations.any (·.contains offset)

-- The expansions among the tokens: the name, and the offsets at which the expansion starts and
-- ends.
def expansionsIn : List Token → List (Token × Nat × Nat)
  | [] => []
  | t :: ts =>
    if t.isIdent "UNFOLD" then
      match nameArgument? ts with
      | some (name, rpar) => (name, t.start, rpar.stop) :: expansionsIn ts
      | none => expansionsIn ts
    else expansionsIn ts

def expansions (d : Document) : List Expansion :=
  (expansionsIn d.tokens).map fun (name, start, stop) =>
    { name := name.value, span := d.lines.span start stop, nameSpan := d.nameSpan name }

def calledIn : List Token → List Token
  | t :: next :: ts =>
    if t.kind = .ident && next.isPunct '(' then t :: calledIn (next :: ts)
    else calledIn (next :: ts)
  | _ => []

-- The operator calls: calls that are no keyword's and stand outside the registration blocks.
def calls (d : Document) : List Call :=
  let blocks := d.registrations
  ((calledIn d.tokens).filter fun t =>
      !isKeyword t.value && !blocks.any (·.contains t.start)).map fun t =>
    { name := t.value, span := d.tokenSpan t }

def operatorOf (d : Document) (e : Entry) : Except Text.TooManyDigits Operator := do
  let sequence ← Text.readNumber e.sequence.value.toList
  return { name := e.nameToken.value, struct := e.struct.value, package := e.package,
           path := e.path.value, sequence, uri := d.uri, span := d.lines.span e.start e.stop,
           structSpan := d.nameSpan e.struct }

-- The operators that the document declares. They are refused together if the sequence number of one
-- of them is too long.
def operators (d : Document) : Except Text.TooManyDigits (List Operator) :=
  d.entries.mapM d.operatorOf

def fragments (d : Document) : List Fragment :=
  d.fragmentBlocks.map fun b =>
    { name := b.name.value, uri := d.uri, span := d.blockSpan b, nameSpan := d.nameSpan b.name }

end Document

end Flow

end FlowIndex
