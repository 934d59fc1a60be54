import FlowIndex.Position
import FlowIndex.Text.Utf8

namespace FlowIndex.Host

-- A place as the parser gives it: a line, and the bytes in front of the place in that line.
structure SourcePoint where
  row : Nat
  column : Nat
deriving DecidableEq, Repr

def lastLine (cs : List Char) : List Char :=
  (cs.reverse.takeWhile (· ≠ '\n')).reverse

def SourcePoint.atOffset (cs : List Char) (offset : Nat) : SourcePoint where
  row := (cs.take offset).count '\n'
  column := (Text.utf8 (lastLine (cs.take offset))).length

def byteOffset (cs : List Char) (offset : Nat) : Nat :=
  (Text.utf8 (cs.take offset)).length

def textBetween (bytes : List UInt8) (start stop : Nat) : List Char :=
  Text.decodeLossy ((bytes.drop start).take (stop - start))

def lineFeed : UInt8 := 10

-- The lines of some bytes, without their ends. Only a line feed ends a line.
def byteLines : List UInt8 → List (List UInt8)
  | [] => [[]]
  | b :: bs =>
    if b = lineFeed then [] :: byteLines bs
    else match byteLines bs with
      | [] => [[b]]
      | line :: lines => (b :: line) :: lines

structure SourceLines where
  lines : List (List UInt8)
deriving Repr

namespace SourceLines

def ofBytes (bytes : List UInt8) : SourceLines :=
  ⟨byteLines bytes⟩

-- The position of a point. In a line that does not exist it has no character in front of it.
def position (source : SourceLines) (p : SourcePoint) : Position where
  line := p.row
  character := (Text.decodeLossy ((source.lines.getD p.row []).take p.column)).length

def span (source : SourceLines) (start stop : SourcePoint) : Span :=
  ⟨source.position start, source.position stop⟩

end SourceLines

end FlowIndex.Host
