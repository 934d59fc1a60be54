import FlowIndex.Host.Grammar

namespace FlowIndex.Host

structure Terminals where
  bits : Nat := 0
deriving DecidableEq, Repr, Inhabited

namespace Terminals

def single (t : Terminal) : Terminals :=
  ⟨1 <<< t.ctorIdx⟩

def contains (s : Terminals) (t : Terminal) : Bool :=
  s.bits.testBit t.ctorIdx

def isEmpty (s : Terminals) : Bool :=
  s.bits = 0

instance : Union Terminals :=
  ⟨fun s t => ⟨s.bits ||| t.bits⟩⟩

end Terminals

structure CategoryTable where
  bits : Nat := 0
deriving DecidableEq, Repr

namespace CategoryTable

def size : Nat :=
  Category.moreInstances.ctorIdx + 1

def width : Nat := 64

def empty : CategoryTable :=
  {}

def get (table : CategoryTable) (c : Category) : Terminals :=
  ⟨(table.bits >>> (width * c.ctorIdx)) % 1 <<< width⟩

def add (table : CategoryTable) (c : Category) (s : Terminals) : CategoryTable :=
  ⟨table.bits ||| (s.bits % 1 <<< width) <<< (width * c.ctorIdx)⟩

-- Repeats a round until it changes nothing. A round that knows more never gives less, and no chain
-- of phrases that start with one another is longer than there are kinds of them.
def saturate (round : CategoryTable → CategoryTable) : Nat → CategoryTable → CategoryTable
  | 0, table => table
  | fuel + 1, table =>
    let next := round table
    if next = table then table else saturate round fuel next

end CategoryTable

namespace Grammar

def firstRound (table : CategoryTable) : CategoryTable :=
  all.toList.foldl (fun table r => table.add r.category (firstOf table r)) table
where
  firstOf (table : CategoryTable) (r : Rule) : Terminals :=
    match r.symbol? 0 with
    | some (.terminal t) => .single t
    | some (.category c) => table.get c
    | none => {}

def firsts : CategoryTable :=
  .saturate firstRound CategoryTable.size .empty

end Grammar

def Symbol.first : Symbol → Terminals
  | .terminal t => .single t
  | .category c => Grammar.firsts.get c

structure Item where
  -- The number of the rule.
  rule : Nat
  -- How many symbols of the rule have been read.
  position : Nat
  -- The words that may follow the rule here.
  lookahead : Terminals
deriving DecidableEq, Repr

namespace Item

def rule? (i : Item) : Option Rule :=
  Grammar.all[i.rule]?

def next? (i : Item) : Option Symbol := do
  (← i.rule?).symbol? i.position

def afterNext (i : Item) : Terminals :=
  match i.rule?.bind (·.symbol? (i.position + 1)) with
  | some x => x.first
  | none => i.lookahead

def advance? (x : Symbol) (i : Item) : Option Item :=
  if i.next? = some x then some { i with position := i.position + 1 } else none

end Item

-- A state of the parser. States with the same items are the same.
structure State where
  items : List Item
  -- The words that may follow the phrases that can start here, none for those that cannot.
  expected : CategoryTable

namespace State

def expectedRound (table : CategoryTable) : CategoryTable :=
  Grammar.all.toList.foldl expectFirst table
where
  expectFirst (table : CategoryTable) (r : Rule) : CategoryTable :=
    let lookahead := table.get r.category
    if lookahead.isEmpty then table
    else
      match r.symbol? 0, r.symbol? 1 with
      | some (.category c), some x => table.add c x.first
      | some (.category c), none => table.add c lookahead
      | _, _ => table

def ofItems (items : List Item) : State :=
  let begun := items.foldl
    (fun table i =>
      match i.next? with
      | some (.category c) => table.add c i.afterNext
      | _ => table)
    CategoryTable.empty
  -- What follows a phrase may need more rounds than the phrase itself.
  { items, expected := .saturate expectedRound (2 * CategoryTable.size) begun }

def start (c : Category) : State :=
  { items := []
    expected := .saturate expectedRound (2 * CategoryTable.size)
      (CategoryTable.empty.add c (.single .stop)) }

def opened (s : State) (x : Symbol) : List Item :=
  Grammar.all.toList.zipIdx.filterMap fun (r, n) =>
    let lookahead := s.expected.get r.category
    if r.symbol? 0 = some x && !lookahead.isEmpty then some ⟨n, 1, lookahead⟩ else none

def next (s : State) (x : Symbol) : State :=
  ofItems (s.items.filterMap (·.advance? x) ++ s.opened x)

def reads (s : State) (t : Terminal) : Bool :=
  s.items.any (·.next? = some (.terminal t)) || !(s.opened (.terminal t)).isEmpty

end State

structure Moves where
  -- The rules that end, by their numbers.
  reductions : List Nat := []
  -- Whether the word can be read.
  shifts : Bool := false

namespace State

-- The rules that end before a word, those of the strongest precedence only.
def reductions (s : State) (t : Terminal) : List (Nat × Rule) :=
  let ended := s.items.filterMap fun i => do
    let r ← i.rule?
    if i.position = r.symbols.size && i.lookahead.contains t then some (i.rule, r) else none
  let strongest := ended.filter fun (_, r) =>
    ended.all fun (_, q) => q.binding.precedence ≤ r.binding.precedence
  strongest.mergeSort fun a b => a.1 ≤ b.1

def ongoing (s : State) (t : Terminal) : List Int :=
  s.items.filterMap fun i => do
    if (← i.next?).first.contains t then some (← i.rule?).binding.precedence else none

-- The moves before a word. A rule that ends against one that goes on wins by a stronger precedence
-- or, among equals, by the side that it takes; the pieces of a list are joined at once.
def moves (s : State) (t : Terminal) : Moves :=
  let ended := s.reductions t
  let both : Moves := ⟨ended.map (·.1), s.reads t⟩
  match ended with
  | [] => both
  | (_, r) :: _ =>
    if !both.shifts then both
    else if ended.length = 1 && r.joins then { both with shifts := false }
    else
      let ongoing := s.ongoing t
      let stronger := ongoing.any (· < r.binding.precedence)
      let weaker := ongoing.any (r.binding.precedence < ·)
      if weaker && !stronger then { both with reductions := [] }
      else if stronger && !weaker then { both with shifts := false }
      else if stronger then both
      else if ended.all (·.2.binding.side = some .left) then { both with shifts := false }
      else if ended.all (·.2.binding.side = some .right) then { both with reductions := [] }
      else both

def hasMoves (s : State) (t : Terminal) : Bool :=
  let m := s.moves t
  m.shifts || !m.reductions.isEmpty

def accepts (s : State) (t : Terminal) : Bool :=
  t = .stop && s.items.isEmpty

end State

end FlowIndex.Host
