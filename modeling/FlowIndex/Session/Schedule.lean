import FlowIndex.SortedList

namespace FlowIndex

-- How long changes are gathered before a rebuild, and whether those that arrive during a rebuild
-- cause another one.
structure Pace where
  delay : Nat
  trailing : Bool
deriving DecidableEq, Repr

-- The first change that is noticed arms a timer, and later ones neither move nor double it.
structure Schedule where
  -- Whether a rebuild is under way.
  busy : Bool := false
  -- The documents that changed since the last rebuild.
  pending : List String := []
  -- Those of them that changed during the present rebuild.
  arrived : List String := []
  -- When the timer goes off, if it is armed.
  timer : Option Nat := none
  now : Nat := 0
deriving DecidableEq, Repr

namespace Schedule

-- Arms the timer, unless it is armed already.
def arm (pace : Pace) (s : Schedule) : Schedule :=
  { s with timer := some (s.timer.getD (s.now + pace.delay)) }

def notify (pace : Pace) (uri : String) (s : Schedule) : Schedule :=
  -- A rebuild under way may already be past the document, so its change is also kept apart from the
  -- pending ones, which the rebuild clears when it ends.
  arm pace
    { s with
      pending := NameSet.insert uri s.pending
      arrived := if s.busy then NameSet.insert uri s.arrived else s.arrived }

def release (s : Schedule) : Schedule :=
  { s with busy := false, pending := [] }

def reschedule (pace : Pace) (s : Schedule) : Schedule :=
  let rest := { s with arrived := [] }
  if pace.trailing && !s.arrived.isEmpty then
    arm pace { rest with pending := NameSet.union s.arrived s.pending }
  else rest

def disarm (s : Schedule) : Schedule :=
  { s with timer := none }

def isDue (time : Nat) (s : Schedule) : Bool :=
  s.timer.any (· ≤ time)

end Schedule

end FlowIndex
