import FlowIndex.Console.Literal.Expression

namespace FlowIndex.Console.Literal

def Source.ofChars (texts : TextReader) (cs : List Char) : Source :=
  let s := scan cs
  { s with lexemes := s.lexemes.toArray, texts }

def Source.part (src : Source) : Part → Parser Node :=
  -- Between two tokens there are no more parts than kinds of them.
  Part.parser (32 * (src.lexemes.size + 2))

def checkInside : Nat → List Char → Except Fault Unit
  | 0, _ => .ok ()
  | depth + 1, cs => do
    let src := Source.ofChars { told := .inside, expression := checkInside depth } cs
    let _ ← src.parse (Grammar.starExpressions src.part)

def whole (part : Part → Parser Node) : Parser Node := do
  let a ← part .expression
  let rest ← Parser.repeated (Parser.mark "," *> part .expression)
  let comma ← Parser.attempt (Parser.mark ",")
  let _ ← Parser.repeated (Parser.token .lineEnd)
  Parser.token .stop
  return if rest.isEmpty && comma.isNone then a else .tuple (a :: rest)

inductive Error
  | fault (f : Fault)
  | trouble (t : Trouble)
deriving DecidableEq, Repr

def check (cs : List Char) : Except Error Unit := do
  if cs.any (·.toNat = 0) then throw (.trouble .nullByte)
  let cs := cs.dropWhile fun c => c = ' ' || c = '\t'
  let src := Source.ofChars { told := id, expression := checkInside cs.length } cs
  let node ← (src.parse (whole src.part)).mapError .fault
  let _ ← node.value.mapError .trouble

end FlowIndex.Console.Literal
