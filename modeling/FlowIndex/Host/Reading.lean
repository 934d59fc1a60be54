import FlowIndex.Host.Automaton
import FlowIndex.Host.Token

namespace FlowIndex.Host

-- The tokens up to the one that closes the innermost of `depth + 1` open brackets, that token, and
-- the tokens behind it.
def splitClosing : Nat → List Token → Option (List Token × Token × List Token)
  | _, [] => none
  | depth, t :: ts =>
    if t.isOpening then (splitClosing (depth + 1) ts).map fun (inner, rest) => (t :: inner, rest)
    else if t.isClosing then
      match depth with
      | 0 => some ([], t, ts)
      | depth + 1 => (splitClosing depth ts).map fun (inner, rest) => (t :: inner, rest)
    else (splitClosing depth ts).map fun (inner, rest) => (t :: inner, rest)

-- A word as it may stand in a text: its kind and how many tokens it takes.
structure Word where
  kind : Terminal
  size : Nat
deriving DecidableEq, Repr

namespace Word

def marks : List (String × Terminal) :=
  [("...", .ellipsis),
   ("<-", .arrow), ("<<", .quotient), (">>", .quotient), ("&^", .quotient),
   ("==", .comparison), ("!=", .comparison), ("<=", .comparison), (">=", .comparison),
   ("&&", .conjunction), ("||", .disjunction),
   ("(", .openParen), (")", .closeParen), ("[", .openBracket), ("]", .closeBracket),
   (",", .comma), (".", .dot), (":", .colon), ("~", .tilde), ("*", .star), ("&", .ampersand),
   ("/", .quotient), ("%", .quotient), ("|", .bar), ("^", .caret), ("+", .sign), ("-", .sign),
   ("!", .bang), ("<", .comparison), (">", .comparison)]

def names : List (String × Terminal) :=
  [("struct", .struct), ("interface", .interface), ("func", .func), ("map", .map), ("chan", .chan),
   ("new", .builtin), ("make", .builtin), ("nil", .constant), ("true", .constant),
   ("false", .constant), ("iota", .constant)]

def isSpecial (w : Word) : Bool :=
  names.any (·.2 = w.kind)

def markText (n : Nat) : List Token → List String
  | [] => []
  | t :: ts =>
    match n with
    | 0 => []
    | n + 1 =>
      if t.kind ≠ .mark then []
      else if ts.head?.any (t.stop = ·.start) then t.text :: markText n ts
      else [t.text]

-- The words that the tokens may start with, those that are tried first in front. The longest of
-- several marks comes first, and any word that is spelled like a name may be one.
def starts : List Token → List Word
  | [] => [⟨.stop, 0⟩]
  | t :: ts =>
    match t.kind with
    | .name | .keyword => ((names.lookup t.text).toList ++ [Terminal.name]).map (⟨·, 1⟩)
    | .literal => [⟨.literal, 1⟩]
    | .mark =>
      if t.isMark '{' then
        (splitClosing 0 ts).toList.map fun (inner, _) => ⟨.body, inner.length + 2⟩
      else
        let text := markText 3 (t :: ts)
        [3, 2, 1].filterMap fun n => do
          guard (n ≤ text.length)
          return ⟨← marks.lookup (String.join (text.take n)), n⟩

def next? (s : State) (ts : List Token) : Option Word :=
  (starts ts).find? fun w => s.hasMoves w.kind || s.accepts w.kind

end Word

structure Piece where
  symbol : Symbol
  start : Nat
  stop : Nat
  size : Nat
  weight : Int
deriving DecidableEq, Repr

namespace Piece

def alike (a b : Piece) : Bool :=
  a.symbol = b.symbol && a.start = b.start && a.stop = b.stop && a.size = b.size

def ofRule (r : Rule) (parts : List Piece) : Piece :=
  { symbol := .category r.category
    start := (parts.head?.map (·.start)).getD 0
    stop := (parts.getLast?.map (·.stop)).getD 0
    size := parts.length
    weight := parts.foldl (fun total p => total + p.weight) r.binding.weight }

def heaviest? : List Piece → Option Piece
  | [] => none
  | p :: ps => some (ps.foldl (fun best q => if best.weight < q.weight then q else best) p)

end Piece

-- A way on from a node towards the start: the piece on it and the number of the node behind.
structure Link where
  base : Nat
  piece : Piece

structure Node where
  state : State
  position : Nat
  links : List Link
  -- The weight of the heaviest reading.
  weight : Int

-- Where a state has several moves, a reading goes on in several versions, and versions that come to
-- the same state at the same place are joined.
structure Forest where
  nodes : Array Node
  -- The nodes where the versions stand, none for those that are over.
  heads : List (Option Nat)
  -- The whole phrases that have been read.
  results : List Piece := []

namespace Forest

def start (c : Category) : Forest :=
  { nodes := #[⟨.start c, 0, [], 0⟩], heads := [some 0] }

def head? (f : Forest) (v : Nat) : Option Node := do
  f.nodes[← (← f.heads[v]?)]?

def halt (f : Forest) (v : Nat) : Forest :=
  { f with heads := f.heads.set v none }

def linksOf (nodes : Array Node) (n : Nat) : List Link :=
  match nodes[n]? with
  | some node => node.links
  | none => []

def weightOf (nodes : Array Node) (n : Nat) : Int :=
  match nodes[n]? with
  | some node => node.weight
  | none => 0

def joinable (nodes : Array Node) (m n : Nat) : Bool :=
  match nodes[m]?, nodes[n]? with
  | some a, some b => a.position = b.position && a.state.items = b.state.items
  | _, _ => false

def maxLinks : Nat := 8

-- Adds a way on from a node. If there is one already with the same phrase, to the same node or to
-- one that can be joined with it, no way is added: the heavier phrase is kept, or the nodes behind
-- are joined. `fuel` bounds how far back nodes are joined.
def addLink : Nat → Array Node → Nat → Link → Array Node
  | 0, nodes, _, _ => nodes
  | fuel + 1, nodes, n, link =>
    match nodes[n]?, nodes[link.base]? with
    | some node, some base =>
      let weight := base.weight + link.piece.weight
      let same := node.links.findIdx? fun l =>
        l.piece.alike link.piece && (l.base = link.base || joinable nodes l.base link.base)
      if link.base = n then nodes
      else
        match same.bind fun i => node.links[i]?.map (i, ·) with
        | some (i, l) =>
          if l.base = link.base then
            if l.piece.weight < link.piece.weight then
              nodes.modify n fun node => { node with links := node.links.set i link, weight }
            else nodes
          else
            let joined := base.links.foldl (fun nodes => addLink fuel nodes l.base) nodes
            joined.modify n fun node => { node with weight := max node.weight weight }
        | none =>
          if node.links.length < maxLinks then
            nodes.modify n fun node =>
              { node with links := node.links ++ [link], weight := max node.weight weight }
          else nodes
    | _, _ => nodes

def join (nodes : Array Node) (into n : Nat) : Array Node :=
  (linksOf nodes n).foldl (fun nodes => addLink nodes.size nodes into) nodes

-- The most paths that are followed at once.
def maxPaths : Nat := 64

def paths (nodes : Array Node) : Nat → List (Nat × List Piece) → List (Nat × List Piece)
  | 0, ps => ps
  | n + 1, ps =>
    let longer : List (List (Nat × List Piece)) := ps.map fun (m, pieces) =>
      (linksOf nodes m).map fun l => (l.base, l.piece :: pieces)
    paths nodes n ((longer.filterMap (·.head?) ++ longer.flatMap (·.tail)).take maxPaths)

def grouped (ps : List (Nat × List Piece)) : List (Nat × List (List Piece)) :=
  (ps.map (·.1)).eraseDups.map fun n => (n, ps.filterMap fun (m, pieces) =>
    if m = n then some pieces else none)

def maxAdvanced : Nat := 11

-- Puts a version at a node behind the others, or joins it with one that is there already and is not
-- the version `v`.
def addVersion (f : Forest) (v : Nat) (node : Node) : Forest :=
  let n := f.nodes.size
  let nodes := f.nodes.push node
  let there := f.heads.zipIdx.findSome? fun (head, i) => do
    let m ← head
    if i ≠ v && joinable nodes m n then some m else none
  match there with
  | some m => { f with nodes := join nodes m n }
  | none =>
    if f.heads.length < maxAdvanced then { f with nodes, heads := f.heads ++ [some n] }
    else f

def reduce (f : Forest) (v rule : Nat) : Forest :=
  match Grammar.all[rule]?, f.heads[v]?.join, f.head? v with
  | some r, some n, some node =>
    (grouped (paths f.nodes r.symbols.size [(n, [])])).foldl
      (fun (f : Forest) (base, parts) =>
        match f.nodes[base]?, Piece.heaviest? (parts.map (Piece.ofRule r)) with
        | some b, some piece =>
          f.addVersion v
            { state := b.state.next piece.symbol
              position := node.position
              links := [⟨base, piece⟩]
              weight := b.weight + piece.weight }
        | _, _ => f)
      f
  | _, _, _ => f

def shift (f : Forest) (v : Nat) (w : Word) : Forest :=
  match f.heads[v]?.join, f.head? v with
  | some n, some node =>
    let symbol := Symbol.terminal w.kind
    let stop := node.position + w.size
    { f with
      nodes := f.nodes.push
        { state := node.state.next symbol
          position := stop
          links := [⟨n, ⟨symbol, node.position, stop, 0, 0⟩⟩]
          weight := node.weight }
      heads := f.heads.set v (some f.nodes.size) }
  | _, _ => f

def accept (f : Forest) (v : Nat) : Forest :=
  { f.halt v with results := f.results ++ ((f.head? v).map (·.links.map (·.piece))).getD [] }

-- Goes on with a version until it has read a word or is over. Rules that end make versions of their
-- own, the last of which takes the place of this one if the word is not read.
def readWord : Nat → Forest → Nat → Word → Forest
  | 0, f, v, _ => f.halt v
  | fuel + 1, f, v, w =>
    match f.head? v with
    | none => f
    | some node =>
      if node.state.accepts w.kind then f.accept v
      else
        -- A word that means nothing special here is a name.
        let w := if w.isSpecial && !node.state.hasMoves w.kind then { w with kind := .name } else w
        let moves := node.state.moves w.kind
        let (reduced, last) := moves.reductions.foldl
          (fun (f, last) rule =>
            let next := f.reduce v rule
            (next, if f.heads.length < next.heads.length then some f.heads.length else last))
          (f, none)
        if moves.shifts then reduced.shift v w
        else
          match last with
          | some k =>
            readWord fuel
              { reduced with
                heads := (reduced.heads.set v (reduced.heads[k]?.join)).eraseIdx k } v w
          | none => reduced.halt v

def advance (ts : Array Token) : Nat → Forest → Nat → Nat → Forest × Nat
  | 0, f, v, last => (f.halt v, last)
  | fuel + 1, f, v, last =>
    match f.head? v with
    | none => (f, last)
    | some node =>
      match Word.next? node.state (ts.toList.drop node.position) with
      | none => (f.halt v, last)
      | some w =>
        let next := f.readWord (8 * ts.size + 8) v w
        match next.head? v with
        | none => (next, last)
        | some node =>
          if last < node.position || (0 < v && node.position = last) then (next, node.position)
          else advance ts fuel next v last

def advanceFrom (ts : Array Token) : Nat → Forest → Nat → Nat → Forest × Nat
  | 0, f, _, last => (f, last)
  | fuel + 1, f, v, last =>
    if v < f.heads.length then
      let (f, last) := advance ts ts.size f v last
      advanceFrom ts fuel f (v + 1) last
    else (f, last)

-- Puts a version among those before it. It is joined with one that it can be joined with, and it
-- changes places with one that is lighter than `weight`.
def insert (weight : Int) (n : Nat) : Array Node → List Nat → Array Node × List Nat
  | nodes, [] => (nodes, [n])
  | nodes, m :: ms =>
    if joinable nodes m n then (join nodes m n, m :: ms)
    else if weightOf nodes m < weight then
      let (nodes, ms) := insert weight m nodes ms
      (nodes, n :: ms)
    else
      let (nodes, ms) := insert weight n nodes ms
      (nodes, m :: ms)

def maxVersions : Nat := 6

def condense (f : Forest) : Forest :=
  let (nodes, heads) := (f.heads.filterMap id).foldl
    (fun (nodes, heads) n => insert (weightOf nodes n) n nodes heads)
    (f.nodes, [])
  { f with nodes, heads := (heads.take maxVersions).map some }

def run (ts : Array Token) : Nat → Forest → Nat → List Piece
  | 0, f, _ => f.results
  | fuel + 1, f, last =>
    if f.heads.isEmpty then f.results
    else
      let (f, last) := advanceFrom ts (2 * maxAdvanced) f 0 last
      run ts fuel f.condense last

end Forest

def readings (c : Category) (ts : List Token) : List Piece :=
  Forest.run ts.toArray (ts.length + 2) (.start c) 0

end FlowIndex.Host
