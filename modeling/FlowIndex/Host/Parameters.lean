import FlowIndex.Host.Reading

namespace FlowIndex.Host

def bracketed? (opening : Char) : List Token → Option (List Token × List Token)
  | t :: ts =>
    if t.isMark opening then (splitClosing 0 ts).map fun (inner, _, rest) => (inner, rest)
    else none
  | [] => none

def Token.isLineEnd (t : Token) : Bool :=
  t.isMark ';' && t.start = t.stop

def Piece.hasParameters (p : Piece) : Bool :=
  p.size = 3

-- Whether a specification has type parameters: `[P *T]` declares `P` with a constraint, or multiplies
-- `P` by `T`. Among readings of the same weight the first one counts, except in a specification that
-- leads a group, where any array counts.
def hasParameters (leading : Bool) (ts : List Token) : Bool :=
  -- Between the words of a specification line ends count for nothing.
  let rs := readings .spec (ts.filter (!·.isLineEnd))
  match Piece.heaviest? rs with
  | none => false
  | some best =>
    if leading then rs.all fun r => r.weight < best.weight || r.hasParameters
    else best.hasParameters

end FlowIndex.Host
