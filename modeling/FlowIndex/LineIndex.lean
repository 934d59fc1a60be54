import FlowIndex.Position

namespace FlowIndex

structure LineIndex where
  starts : List Nat
  length : Nat
deriving Repr

namespace LineIndex

def startsFrom (offset : Nat) : List Char → List Nat
  | [] => []
  | c :: cs => if c = '\n' then (offset + 1) :: startsFrom (offset + 1) cs
      else startsFrom (offset + 1) cs

def ofChars (cs : List Char) : LineIndex where
  starts := startsFrom 0 cs
  length := cs.length

def locate (offset line start : Nat) : List Nat → Position
  | [] => ⟨line, offset - start⟩
  | s :: ss => if s ≤ offset then locate offset (line + 1) s ss else ⟨line, offset - start⟩

-- The position of an offset; an offset behind the text stands for the end of the text.
def position (index : LineIndex) (offset : Nat) : Position :=
  locate (min offset index.length) 0 0 index.starts

def positionInt (index : LineIndex) (offset : Int) : Position :=
  index.position offset.toNat

def offsetFrom (length character : Nat) : Nat → Nat → List Nat → Nat
  | 0, start, [] => min (start + character) length
  | 0, start, s :: _ => min (start + character) (s - 1)
  | _ + 1, _, [] => length
  | line + 1, _, s :: ss => offsetFrom length character line s ss

-- The offset of a position. A position behind the end of its line stands for the end of the line,
-- and one behind the last line for the end of the text.
def offset (index : LineIndex) (p : Position) : Nat :=
  offsetFrom index.length p.character p.line 0 index.starts

def span (index : LineIndex) (start stop : Nat) : Span :=
  ⟨index.position start, index.position stop⟩

end LineIndex

end FlowIndex
