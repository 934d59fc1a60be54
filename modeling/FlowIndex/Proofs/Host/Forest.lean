import FlowIndex.Proofs.Host.Derivation

namespace FlowIndex.Host

variable {ts : List Token} {c : Category} {r : Rule} {s : State} {n m : Nat}

section Pieces

-- What tokens a piece has been read from.
def Piece.Read (ts : List Token) (p : Piece) : Prop :=
  match p.symbol with
  | .terminal t => ∃ w ∈ Word.starts (ts.drop p.start), w.kind = t ∧ p.stop = p.start + w.size
  | .category c => ∃ r ∈ Grammar.all, r.category = c ∧ r.symbols.size = p.size ∧
      Reads ts r.symbols.toList p.start p.stop

variable {p : Piece} {xs : List Symbol} {j : Nat}

theorem Piece.Read.reads (read : p.Read ts) (later : Reads ts xs p.stop j) :
    Reads ts (p.symbol :: xs) p.start j := by
  rw [Read] at read
  cases symbol : p.symbol
  case terminal t =>
    rw [symbol] at read
    obtain ⟨w, mem, rfl, stop⟩ := read
    exact .word mem <| stop ▸ later
  case category c =>
    rw [symbol] at read
    obtain ⟨r, rule, rfl, _, parts⟩ := read
    exact .phrase rule parts later

theorem Piece.heaviest?_mem {ps : List Piece} (heaviest : Piece.heaviest? ps = some p) : p ∈ ps := by
  cases ps
  case nil => cases heaviest
  case cons q qs =>
    cases heaviest
    refine List.foldlRecOn _ _ List.mem_cons_self fun best mem q listed => ?_
    split
    case isTrue => exact List.mem_cons_of_mem _ listed
    case isFalse => exact mem

end Pieces

section Points

-- Where a node stands.
structure Point where
  state : State
  position : Nat

def Node.point (node : Node) : Point :=
  ⟨node.state, node.position⟩

def pointAt (nodes : Array Node) (n : Nat) : Option Point :=
  nodes[n]?.map Node.point

-- How a piece leads from one point to another.
structure Leads (ts : List Token) (b : Point) (p : Piece) (a : Point) : Prop where
  state : a.state = b.state.next p.symbol
  proper : b.state.Proper
  start : p.start = b.position
  stop : p.stop = a.position
  later : b.position < a.position
  read : p.Read ts

-- How pieces lead from one point to another.
inductive Path (ts : List Token) : Point → List Piece → Point → Prop
  | nil (a : Point) : Path ts a [] a
  | cons {a b d : Point} {p : Piece} {ps : List Piece} (leads : Leads ts a p b)
      (path : Path ts b ps d) : Path ts a (p :: ps) d

namespace Path

variable {a b : Point} {ps : List Piece}

theorem reads (path : Path ts b ps a) : Reads ts (ps.map (·.symbol)) b.position a.position := by
  induction path
  case nil => exact .nil _
  case cons leads _ hi =>
    rw [← leads.stop] at hi
    exact leads.start ▸ leads.read.reads hi

theorem begun (path : Path ts b ps a) (begun : a.state.Begun r (n + ps.length)) :
    b.state.Begun r n ∧ ps.map (·.symbol) <+: r.symbols.toList.drop n := by
  induction path generalizing n
  case nil => exact ⟨begun, List.nil_prefix⟩
  case cons b b' a p ps leads _ hi =>
    have shift : n + (ps.length + 1) = n + 1 + ps.length := by omega
    obtain ⟨later, parts⟩ := hi (shift ▸ begun)
    obtain ⟨next, before⟩ := (leads.state ▸ later).back leads.proper
    have drop : r.symbols.toList.drop n = p.symbol :: r.symbols.toList.drop (n + 1) := by
      obtain ⟨bound, at'⟩ := List.getElem?_eq_some_iff.mp <| Array.getElem?_toList.trans next
      rw [List.drop_eq_getElem_cons bound, at']
    rw [drop]
    exact ⟨before, List.cons_prefix_cons.mpr ⟨rfl, parts⟩⟩

theorem ends (path : Path ts b ps a) :
    (∀ p ∈ ps.head?, p.start = b.position ∧ b.state.Proper ∧ b.position < a.position) ∧
      ∀ p ∈ ps.getLast?, p.stop = a.position := by
  induction path
  case nil => exact ⟨nofun, nofun⟩
  case cons b b' a p ps leads path hi =>
    cases path
    case nil => exact ⟨by rintro _ ⟨⟩; exact ⟨leads.start, leads.proper, leads.later⟩,
      by rintro _ ⟨⟩; exact leads.stop⟩
    case cons p' ps leads' path =>
      obtain ⟨_, _, later⟩ := hi.1 p' rfl
      exact ⟨by rintro _ ⟨⟩; exact ⟨leads.start, leads.proper, Nat.lt_trans leads.later later⟩,
        by rw [List.getLast?_cons_cons]; exact hi.2⟩

end Path

theorem Grammar.symbols_size_pos : ∀ r ∈ Grammar.all, 0 < r.symbols.size := by
  decide +kernel

theorem Grammar.stop_notMem_symbols : ∀ r ∈ Grammar.all, .terminal .stop ∉ r.symbols := by
  decide +kernel

theorem Path.leads {a b : Point} {ps : List Piece} (path : Path ts b ps a) (rule : r ∈ Grammar.all)
    (ended : a.state.Begun r r.symbols.size) (length : ps.length = r.symbols.size) :
    b.state.Begun r 0 ∧
      Leads ts b (Piece.ofRule r ps) ⟨b.state.next (.category r.category), a.position⟩ := by
  obtain ⟨begun, parts⟩ := path.begun (n := 0) (by rwa [Nat.zero_add, length])
  have symbols : ps.map (·.symbol) = r.symbols.toList :=
    parts.eq_of_length <| by simp [length]
  have filled : ps ≠ [] :=
    List.ne_nil_of_length_pos <| length ▸ Grammar.symbols_size_pos r rule
  obtain ⟨first, last⟩ := path.ends
  have head := List.head?_eq_some_head filled
  have end' := List.getLast?_eq_some_getLast filled
  obtain ⟨start, proper, later⟩ := first _ head
  have start' : (Piece.ofRule r ps).start = b.position := by
    rw [Piece.ofRule, head, Option.map_some, Option.getD_some, start]
  have stop' : (Piece.ofRule r ps).stop = a.position := by
    rw [Piece.ofRule, end', Option.map_some, Option.getD_some, last _ end']
  refine ⟨begun, ?_⟩
  exact {
    state := rfl
    proper
    start := start'
    stop := stop'
    later
    read := ⟨r, rule, rfl, length.symm, by rw [start', stop', ← symbols]; exact path.reads⟩ }

end Points

section Graph

-- Where a node can stand. Only the first one stands at the start.
structure Placed (ts : List Token) (n : Nat) (a : Point) : Prop where
  proper : a.state.Proper
  within : a.position ≤ ts.length
  later : n ≠ 0 → 0 < a.position ∧ a.state = .ofItems a.state.items

-- A way on from a point. Only a whole phrase leads to a state without items, and only from the start.
structure Linked (ts : List Token) (c : Category) (points : Nat → Option Point) (a : Point)
    (l : Link) : Prop where
  leads : ∃ b, points l.base = some b ∧ Leads ts b l.piece a
  whole : a.state.items = [] → l.base = 0 ∧ l.piece.symbol = .category c

structure Graph (ts : List Token) (c : Category) (nodes : Array Node) : Prop where
  start : pointAt nodes 0 = some ⟨.start c, 0⟩
  placed : ∀ n a, pointAt nodes n = some a → Placed ts n a
  linked : ∀ (n : Nat) (node : Node), nodes[n]? = some node → ∀ l ∈ node.links,
    Linked ts c (pointAt nodes) node.point l

-- Whether every node of an array stands where it stood in another.
def Keeps (nodes nodes' : Array Node) : Prop :=
  ∀ n a, pointAt nodes n = some a → pointAt nodes' n = some a

variable {nodes nodes' : Array Node} {node : Node} {a b : Point} {l : Link}

theorem pointAt_of_getElem? (found : nodes[n]? = some node) : pointAt nodes n = some node.point := by
  rw [pointAt, found, Option.map_some]

theorem Linked.keeps (linked : Linked ts c (pointAt nodes) a l) (keeps : Keeps nodes nodes') :
    Linked ts c (pointAt nodes') a l where
  leads := linked.leads.imp fun b ⟨there, leads⟩ => ⟨keeps _ b there, leads⟩
  whole := linked.whole

theorem Forest.alike_of_find {links : List Link} {i : Nat} {k : Link}
    (found : ((links.findIdx? fun l' => l'.piece.alike l.piece &&
      (l'.base = l.base || Forest.joinable nodes l'.base l.base)).bind fun i =>
        links[i]?.map (i, ·)) = some (i, k)) :
    k.base = l.base ∨ Forest.joinable nodes k.base l.base = true := by
  obtain ⟨j, first, found⟩ := Option.bind_eq_some_iff.mp found
  obtain ⟨k', listed, pair⟩ := Option.map_eq_some_iff.mp found
  cases pair
  obtain ⟨bound, fits, _⟩ := List.findIdx?_eq_some_iff_getElem.mp first
  rw [List.getElem?_eq_getElem bound] at listed
  cases listed
  simp only [Bool.and_eq_true, Bool.or_eq_true, decide_eq_true_eq] at fits
  exact fits.2

namespace Graph

theorem first_iff (graph : Graph ts c nodes) (there : pointAt nodes n = some a) :
    n = 0 ↔ a.position = 0 := by
  constructor
  case mp =>
    rintro rfl
    obtain rfl := Option.some.inj <| graph.start.symm.trans there
    rfl
  case mpr =>
    intro zero
    by_contra other
    exact Nat.ne_of_gt ((graph.placed n a there).later other).1 zero

theorem joined (graph : Graph ts c nodes) (joinable : Forest.joinable nodes m n = true) :
    ∃ a, pointAt nodes m = some a ∧ pointAt nodes n = some a := by
  unfold Forest.joinable at joinable
  split at joinable
  case h_2 => cases joinable
  case h_1 x y first second =>
    simp only [Bool.and_eq_true, decide_eq_true_eq] at joinable
    obtain ⟨position, items⟩ := joinable
    have first := pointAt_of_getElem? first
    have second := pointAt_of_getElem? second
    have both : m = 0 ↔ n = 0 := by
      rw [graph.first_iff first, graph.first_iff second]
      exact Eq.congr_left position
    by_cases zero : n = 0
    case pos => exact ⟨_, by rw [both.mpr zero, ← zero, second], second⟩
    case neg =>
      have state : x.state = y.state := by
        have fst : x.state = .ofItems x.state.items :=
          ((graph.placed m _ first).later <| mt both.mp zero).2
        have snd : y.state = .ofItems y.state.items := ((graph.placed n _ second).later zero).2
        rw [fst, snd, items]
      refine ⟨_, first, second.trans ?_⟩
      rw [Node.point, Node.point, state, position]

theorem modify (graph : Graph ts c nodes) {f : Node → Node}
    (point : ∀ node, (f node).point = node.point)
    (links : ∀ node, nodes[n]? = some node → ∀ l ∈ (f node).links,
      Linked ts c (pointAt nodes) node.point l) :
    Graph ts c (nodes.modify n f) ∧ pointAt (nodes.modify n f) = pointAt nodes := by
  have same : pointAt (nodes.modify n f) = pointAt nodes := by
    funext m
    rw [pointAt, pointAt, Array.getElem?_modify]
    split
    case isTrue => cases nodes[m]? <;> simp [point]
    case isFalse => rfl
  refine ⟨⟨same ▸ graph.start, same ▸ graph.placed, ?_⟩, same⟩
  intro m node found l mem
  rw [same]
  rw [Array.getElem?_modify] at found
  split at found
  case isTrue at' =>
    subst at'
    obtain ⟨old, before, rfl⟩ := Option.map_eq_some_iff.mp found
    exact point old ▸ links old before l mem
  case isFalse => exact graph.linked m node found l mem

theorem foldl (graph : Graph ts c nodes) {f : Array Node → Link → Array Node} {links : List Link}
    (step : ∀ nodes', Graph ts c nodes' → pointAt nodes' = pointAt nodes → ∀ l ∈ links,
      Graph ts c (f nodes' l) ∧ pointAt (f nodes' l) = pointAt nodes') :
    Graph ts c (links.foldl f nodes) ∧ pointAt (links.foldl f nodes) = pointAt nodes := by
  refine List.foldlRecOn (motive := fun nodes' => Graph ts c nodes' ∧ pointAt nodes' = pointAt nodes)
    links f ⟨graph, rfl⟩ fun nodes' ⟨graph', same⟩ l mem => ?_
  obtain ⟨graph'', same'⟩ := step nodes' graph' same l mem
  exact ⟨graph'', same'.trans same⟩

theorem relink (graph : Graph ts c nodes) (found : nodes[n]? = some node)
    (linked : Linked ts c (pointAt nodes) node.point l) {f : Node → Node}
    (point : ∀ node, (f node).point = node.point)
    (links : ∀ k ∈ (f node).links, k ∈ node.links ∨ k = l) :
    Graph ts c (nodes.modify n f) ∧ pointAt (nodes.modify n f) = pointAt nodes := by
  refine graph.modify point fun node' found' k mem => ?_
  obtain rfl := Option.some.inj <| found'.symm.trans found
  obtain old | rfl := links k mem
  case inl => exact graph.linked n node' found k old
  case inr => exact linked

theorem addLink (graph : Graph ts c nodes) (there : pointAt nodes n = some a)
    (linked : Linked ts c (pointAt nodes) a l) (fuel : Nat) :
    Graph ts c (Forest.addLink fuel nodes n l) ∧
      pointAt (Forest.addLink fuel nodes n l) = pointAt nodes := by
  induction fuel generalizing nodes n l a
  case zero => exact ⟨graph, rfl⟩
  case succ fuel hi =>
    unfold Forest.addLink
    split
    case h_2 => exact ⟨graph, rfl⟩
    case h_1 node base found behind =>
      obtain rfl : node.point = a := Option.some.inj <| (pointAt_of_getElem? found).symm.trans there
      dsimp only
      split
      case isTrue => exact ⟨graph, rfl⟩
      case isFalse =>
        split
        case h_1 i l' same =>
          split
          case isTrue =>
            split
            case isTrue =>
              exact graph.relink found linked (fun _ => rfl) fun k => List.mem_or_eq_of_mem_set
            case isFalse => exact ⟨graph, rfl⟩
          case isFalse apart =>
            obtain ⟨b, there', behind'⟩ := graph.joined <| (Forest.alike_of_find same).resolve_left apart
            obtain rfl := Option.some.inj <| (pointAt_of_getElem? behind).symm.trans behind'
            have step : ∀ nodes', Graph ts c nodes' → pointAt nodes' = pointAt nodes →
                ∀ k ∈ base.links, Graph ts c (Forest.addLink fuel nodes' l'.base k) ∧
                  pointAt (Forest.addLink fuel nodes' l'.base k) = pointAt nodes' :=
              fun nodes' graph' same' k mem =>
                hi graph' (same' ▸ there') <| same' ▸ graph.linked _ base behind k mem
            obtain ⟨graph', same'⟩ := graph.foldl step
            obtain ⟨graph'', same''⟩ := graph'.modify (n := n)
              (f := fun node' =>
                { node' with weight := max node'.weight (base.weight + l.piece.weight) })
              (fun _ => rfl) fun node' found' l mem => graph'.linked n node' found' l mem
            exact ⟨graph'', same''.trans same'⟩
        case h_2 =>
          split
          case isTrue =>
            refine graph.relink found linked (fun _ => rfl) fun k mem => ?_
            exact (List.mem_append.mp mem).imp_right List.mem_singleton.mp
          case isFalse => exact ⟨graph, rfl⟩

theorem linksOf (graph : Graph ts c nodes) (there : pointAt nodes n = some a) :
    ∀ l ∈ Forest.linksOf nodes n, Linked ts c (pointAt nodes) a l := by
  intro l mem
  unfold Forest.linksOf at mem
  split at mem
  case h_1 node found =>
    obtain rfl : node.point = a := Option.some.inj <| (pointAt_of_getElem? found).symm.trans there
    exact graph.linked n node found l mem
  case h_2 => cases mem

theorem join (graph : Graph ts c nodes) (there : pointAt nodes m = some a)
    (there' : pointAt nodes n = some a) :
    Graph ts c (Forest.join nodes m n) ∧ pointAt (Forest.join nodes m n) = pointAt nodes :=
  graph.foldl fun nodes' graph' same l mem =>
    graph'.addLink (same ▸ there) (same ▸ graph.linksOf there' l mem) nodes'.size

theorem push (graph : Graph ts c nodes) (node : Node) (placed : Placed ts nodes.size node.point)
    (links : ∀ l ∈ node.links, Linked ts c (pointAt nodes) node.point l) :
    Graph ts c (nodes.push node) ∧ Keeps nodes (nodes.push node) := by
  have keeps : Keeps nodes (nodes.push node) := by
    intro m a there
    obtain ⟨old, found, same⟩ := Option.map_eq_some_iff.mp there
    obtain ⟨bound, _⟩ := Array.getElem?_eq_some_iff.mp found
    rw [pointAt, Array.getElem?_push, if_neg <| Nat.ne_of_lt bound, found, Option.map_some, same]
  refine ⟨⟨keeps 0 _ graph.start, fun m a there => ?_, fun m node' found l mem => ?_⟩, keeps⟩
  case refine_1 =>
    obtain ⟨node', found, rfl⟩ := Option.map_eq_some_iff.mp there
    rw [Array.getElem?_push] at found
    split at found
    case isTrue at' =>
      cases found
      exact at' ▸ placed
    case isFalse => exact graph.placed m _ <| pointAt_of_getElem? found
  case refine_2 =>
    rw [Array.getElem?_push] at found
    split at found
    case isTrue =>
      cases found
      exact (links l mem).keeps keeps
    case isFalse => exact (graph.linked m node' found l mem).keeps keeps

end Graph

-- A phrase that is waited for leads to items, unless it is the whole one at the start.
theorem Graph.whole_of_begun (graph : Graph ts c nodes) (there : pointAt nodes n = some a)
    (begun : a.state.Begun r 0) (none : (a.state.next (.category r.category)).items = []) :
    n = 0 ∧ r.category = c := by
  by_cases first : n = 0
  case pos =>
    subst first
    obtain rfl := Option.some.inj <| graph.start.symm.trans there
    exact ⟨rfl, (State.next_ne_nil_of_holds_start begun).resolve_right (· none)⟩
  case neg =>
    have state := ((graph.placed n a there).later first).2
    rw [state] at begun none
    exact absurd none <| State.next_ne_nil_of_holds_ofItems begun

namespace Forest

theorem paths_append (graph : Graph ts c nodes) (k : Nat) {ps : List (Nat × List Piece)}
    (old : ∀ q ∈ ps, q.2.length = m ∧ ∃ b, pointAt nodes q.1 = some b ∧ Path ts b q.2 a) :
    ∀ q ∈ paths nodes k ps,
      q.2.length = m + k ∧ ∃ b, pointAt nodes q.1 = some b ∧ Path ts b q.2 a := by
  induction k generalizing ps m
  case zero => exact old
  case succ k hi =>
    unfold paths
    rw [← Nat.succ_add_eq_add_succ]
    refine hi fun q mem => ?_
    have longer : ∃ q' ∈ ps, q ∈ (linksOf nodes q'.1).map fun l => (l.base, l.piece :: q'.2) := by
      have taken := List.mem_of_mem_take mem
      rw [List.mem_append, List.mem_filterMap, List.mem_flatMap] at taken
      obtain ⟨qs, listed, first⟩ | ⟨qs, listed, rest⟩ := taken
      case inl =>
        obtain ⟨q', before, rfl⟩ := List.mem_map.mp listed
        exact ⟨q', before, List.mem_of_head? first⟩
      case inr =>
        obtain ⟨q', before, rfl⟩ := List.mem_map.mp listed
        exact ⟨q', before, List.mem_of_mem_tail rest⟩
    obtain ⟨q', before, extended⟩ := longer
    obtain ⟨l, link, rfl⟩ := List.mem_map.mp extended
    obtain ⟨length, b', there, path⟩ := old q' before
    obtain ⟨b, there', leads⟩ := (graph.linksOf there l link).leads
    exact ⟨by rw [List.length_cons, length], b, there', .cons leads path⟩

theorem mem_of_mem_grouped {ps : List (Nat × List Piece)} {parts : List (List Piece)}
    {pieces : List Piece} (mem : (n, parts) ∈ grouped ps) (part : pieces ∈ parts) :
    (n, pieces) ∈ ps := by
  obtain ⟨_, _, same⟩ := List.mem_map.mp mem
  cases same
  obtain ⟨⟨m, _⟩, listed, found⟩ := List.mem_filterMap.mp part
  obtain ⟨rfl, same⟩ := Option.ite_none_right_eq_some.mp found
  cases same
  exact listed

end Forest

end Graph

end FlowIndex.Host
