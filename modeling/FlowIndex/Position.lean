import FlowIndex.Text.Digit

namespace FlowIndex

-- A line and a character in it, both counted from zero.
@[ext]
structure Position where
  line : Nat
  character : Nat
deriving DecidableEq, Repr, Inhabited

namespace Position

def le (p q : Position) : Bool :=
  p.line < q.line || (p.line == q.line && p.character ≤ q.character)

instance : LE Position := ⟨fun p q => p.le q⟩

instance (p q : Position) : Decidable (p ≤ q) :=
  inferInstanceAs (Decidable (p.le q = true))

theorem le_iff {p q : Position} :
    p ≤ q ↔ p.line < q.line ∨ p.line = q.line ∧ p.character ≤ q.character := by
  show p.le q = true ↔ _
  simp [le]

end Position

@[ext]
structure Span where
  start : Position
  stop : Position
deriving DecidableEq, Repr, Inhabited

-- Whether a position lies between the two ends of a span, the ends included.
def Span.contains (s : Span) (p : Position) : Bool :=
  s.start ≤ p && p ≤ s.stop

structure Location where
  uri : String
  span : Span
deriving DecidableEq, Repr, Inhabited

end FlowIndex
