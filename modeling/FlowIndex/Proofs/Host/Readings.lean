import FlowIndex.Host.Parameters
import FlowIndex.Proofs.Host.Forest

namespace FlowIndex.Host

variable {ts : List Token} {c : Category} {nodes : Array Node}

section Forests

-- A whole phrase that has been read from all tokens.
structure Piece.Whole (ts : List Token) (c : Category) (p : Piece) : Prop where
  symbol : p.symbol = .category c
  start : p.start = 0
  stop : p.stop = ts.length
  read : p.Read ts

structure Forest.Sound (ts : List Token) (c : Category) (f : Forest) : Prop where
  graph : Graph ts c f.nodes
  results : ∀ p ∈ f.results, p.Whole ts c

-- What a forest comes to by ending rules: versions that have come to the same place may be added.
structure Forest.Reduced (ts : List Token) (c : Category) (position : Nat) (f g : Forest) : Prop where
  sound : g.Sound ts c
  keeps : Keeps f.nodes g.nodes
  heads : ∃ new, g.heads = f.heads ++ new ∧
    ∀ h ∈ new, ∃ n a, h = some n ∧ pointAt g.nodes n = some a ∧ a.position = position

namespace Forest

variable {f g h : Forest} {v position : Nat} {node : Node} {a b : Point}

-- Where a version stands.
def point? (f : Forest) (v : Nat) : Option Point :=
  (f.head? v).map Node.point

theorem head?_eq_some : f.head? v = some node ↔
    ∃ n, f.heads[v]? = some (some n) ∧ f.nodes[n]? = some node := by
  simp only [head?, Option.bind_eq_bind, Option.bind_eq_some_iff]
  constructor
  case mp =>
    rintro ⟨_, at', n, rfl, found⟩
    exact ⟨n, at', found⟩
  case mpr =>
    rintro ⟨n, at', found⟩
    exact ⟨_, at', n, rfl, found⟩

theorem point?_eq_some : f.point? v = some a ↔
    ∃ n, f.heads[v]? = some (some n) ∧ pointAt f.nodes n = some a := by
  simp only [point?, pointAt, Option.map_eq_some_iff, head?_eq_some]
  constructor
  case mp =>
    rintro ⟨node, ⟨n, at', found⟩, same⟩
    exact ⟨n, at', node, found, same⟩
  case mpr =>
    rintro ⟨n, at', node, found, same⟩
    exact ⟨node, ⟨n, at', found⟩, same⟩

theorem point_of_head (there : f.point? v = some a) (head : f.heads[v]?.join = some n)
    (at' : f.head? v = some node) : node.point = a ∧ pointAt f.nodes n = some node.point := by
  obtain ⟨n', head', found⟩ := head?_eq_some.mp at'
  rw [head', Option.join_some] at head
  cases head
  rw [point?, at', Option.map_some] at there
  exact ⟨Option.some.inj there, pointAt_of_getElem? found⟩

theorem Sound.halt (sound : f.Sound ts c) (v : Nat) : (f.halt v).Sound ts c :=
  ⟨sound.graph, sound.results⟩

namespace Reduced

theorem refl (sound : f.Sound ts c) : Reduced ts c position f f where
  sound := sound
  keeps _ _ there := there
  heads := ⟨[], (List.append_nil _).symm, nofun⟩

theorem trans (first : Reduced ts c position f g) (second : Reduced ts c position g h) :
    Reduced ts c position f h where
  sound := second.sound
  keeps n a there := second.keeps n a <| first.keeps n a there
  heads := by
    obtain ⟨new, heads, all⟩ := first.heads
    obtain ⟨new', heads', all'⟩ := second.heads
    refine ⟨new ++ new', by rw [heads', heads, List.append_assoc], fun h mem => ?_⟩
    obtain mem | mem := List.mem_append.mp mem
    case inl =>
      obtain ⟨n, a, rfl, there, same⟩ := all h mem
      exact ⟨n, a, rfl, second.keeps n a there, same⟩
    case inr => exact all' h mem

theorem point? (reduced : Reduced ts c position f g) (there : f.point? v = some a) :
    g.point? v = some a := by
  obtain ⟨n, head, there⟩ := point?_eq_some.mp there
  obtain ⟨new, heads, _⟩ := reduced.heads
  refine point?_eq_some.mpr ⟨n, ?_, reduced.keeps n a there⟩
  rw [heads, List.getElem?_append_left (List.getElem?_eq_some_iff.mp head).1, head]

theorem point?_replaced {k : Nat} (reduced : Reduced ts c position f g) (there : f.point? v = some a)
    (bounds : f.heads.length ≤ k ∧ k < g.heads.length) :
    ∃ b, Forest.point? { g with heads := (g.heads.set v g.heads[k]?.join).eraseIdx k } v = some b ∧
      b.position = position := by
  obtain ⟨n, head, _⟩ := point?_eq_some.mp there
  obtain ⟨new, heads, all⟩ := reduced.heads
  have before : v < f.heads.length := (List.getElem?_eq_some_iff.mp head).1
  obtain ⟨h, at'⟩ : ∃ h, g.heads[k]? = some h := ⟨_, List.getElem?_eq_getElem bounds.2⟩
  have listed : h ∈ new := by
    rw [heads, List.getElem?_append_right bounds.1] at at'
    exact List.mem_of_getElem? at'
  obtain ⟨m, b, rfl, there', same⟩ := all h listed
  refine ⟨b, point?_eq_some.mpr ⟨m, ?_, there'⟩, same⟩
  show ((g.heads.set v g.heads[k]?.join).eraseIdx k)[v]? = _
  rw [List.getElem?_eraseIdx_of_lt (by omega), List.getElem?_set_self (by omega), at', Option.join_some]

end Reduced

theorem Sound.addVersion (sound : f.Sound ts c) (node : Node)
    (placed : Placed ts f.nodes.size node.point)
    (links : ∀ l ∈ node.links, Linked ts c (pointAt f.nodes) node.point l) (v : Nat) :
    Reduced ts c node.position f (f.addVersion v node) := by
  obtain ⟨graph, keeps⟩ := sound.graph.push node placed links
  have own : pointAt (f.nodes.push node) f.nodes.size = some node.point := by
    rw [pointAt, Array.getElem?_push_size, Option.map_some]
  unfold Forest.addVersion
  dsimp only
  split
  case h_1 m there =>
    obtain ⟨⟨head, i⟩, _, found⟩ := List.exists_of_findSome?_eq_some there
    obtain ⟨m', _, found⟩ := Option.bind_eq_some_iff.mp found
    obtain ⟨fits, same⟩ := Option.ite_none_right_eq_some.mp found
    cases same
    have joinable := (Bool.and_eq_true _ _ ▸ fits).2
    obtain ⟨a, there', own'⟩ := graph.joined joinable
    obtain ⟨graph', same⟩ := graph.join there' own'
    exact {
      sound := ⟨graph', sound.results⟩
      keeps := fun n a there => same ▸ keeps n a there
      heads := ⟨[], (List.append_nil _).symm, fun _ mem => absurd mem List.not_mem_nil⟩ }
  case h_2 =>
    split
    case isTrue =>
      exact {
        sound := ⟨graph, sound.results⟩
        keeps
        heads := ⟨[some f.nodes.size], rfl, fun h mem =>
          ⟨f.nodes.size, node.point, List.mem_singleton.mp mem, own, rfl⟩⟩ }
    case isFalse => exact .refl sound

theorem Sound.reduce (sound : f.Sound ts c) (there : f.point? v = some a) {rule : Nat}
    {t : Terminal} (ends : rule ∈ (a.state.moves t).reductions) :
    Reduced ts c a.position f (f.reduce v rule) := by
  unfold Forest.reduce
  split
  case h_2 => exact .refl sound
  case h_1 r n node found head at' =>
    obtain ⟨rfl, own⟩ := point_of_head there head at'
    have mem : r ∈ Grammar.all := Array.mem_of_getElem? found
    have ended := State.begun_of_mem_reductions ends found <| Grammar.symbols_size_pos r mem
    have alone : ∀ q ∈ [(n, ([] : List Piece))], q.2.length = 0 ∧
        ∃ b, pointAt f.nodes q.1 = some b ∧ Path ts b q.2 node.point := by
      rintro _ listed
      cases List.mem_singleton.mp listed
      exact ⟨rfl, _, own, .nil _⟩
    have back := paths_append sound.graph r.symbols.size alone
    refine List.foldlRecOn (motive := Reduced ts c node.point.position f) _ _ (.refl sound)
      fun g reduced ⟨base, parts⟩ listed => ?_
    dsimp only
    split
    case h_2 => exact reduced
    case h_1 b piece behind heaviest =>
      obtain ⟨pieces, part, rfl⟩ := List.mem_map.mp <| Piece.heaviest?_mem heaviest
      obtain ⟨length, b', there', path⟩ := back _ <| mem_of_mem_grouped listed part
      obtain ⟨begun, leads⟩ := path.leads mem ended <| by rw [length, Nat.zero_add]
      obtain rfl : b.point = b' :=
        Option.some.inj <| (pointAt_of_getElem? behind).symm.trans <| reduced.keeps _ _ there'
      have position : node.position ≤ ts.length := (sound.graph.placed n _ own).within
      have placed : Placed ts g.nodes.size ⟨b.state.next (.category r.category), node.position⟩ :=
        ⟨State.proper_next _ _, position, fun _ =>
          ⟨Nat.lt_of_le_of_lt (Nat.zero_le _) leads.later, rfl⟩⟩
      have linked : ∀ l ∈ [(⟨base, .ofRule r pieces⟩ : Link)], Linked ts c (pointAt g.nodes)
          ⟨b.state.next (.category r.category), node.position⟩ l := by
        intro l listed
        cases List.mem_singleton.mp listed
        have there' := pointAt_of_getElem? behind
        refine ⟨⟨b.point, there', leads⟩, fun none => ?_⟩
        obtain ⟨first, same⟩ := reduced.sound.graph.whole_of_begun there' begun none
        exact ⟨first, congrArg Symbol.category same⟩
      exact reduced.trans <| reduced.sound.addVersion
        ⟨b.state.next (.category r.category), node.position, [⟨base, .ofRule r pieces⟩], _⟩ placed
        linked v

theorem Sound.shift (sound : f.Sound ts c) (there : f.point? v = some a) {w : Word}
    (starts : w ∈ Word.starts (ts.drop a.position)) (reads : a.state.reads w.kind = true) :
    (f.shift v w).Sound ts c := by
  unfold Forest.shift
  split
  case h_2 => exact sound
  case h_1 n node head at' =>
    obtain ⟨rfl, own⟩ := point_of_head there head at'
    have items := State.next_ne_nil_of_reads reads
    have other : w.kind ≠ .stop := by
      rintro stop
      obtain ⟨r, mem, k, symbol⟩ := State.exists_symbol? items
      rw [stop] at symbol
      exact Grammar.stop_notMem_symbols r mem <| Array.mem_of_getElem? symbol
    have size := Word.starts_size_pos starts other
    have fits := Word.starts_fits starts
    rw [List.length_drop] at fits
    have placed := sound.graph.placed n _ own
    have within : node.position ≤ ts.length := placed.within
    have fits : w.size ≤ ts.length - node.position := fits
    have behind : Placed ts f.nodes.size
        ⟨node.state.next (.terminal w.kind), node.position + w.size⟩ := by
      refine ⟨State.proper_next _ _, ?_, fun _ => ⟨?_, rfl⟩⟩
      all_goals
        dsimp only
        omega
    refine ⟨(sound.graph.push ⟨node.state.next (.terminal w.kind), node.position + w.size,
      [⟨n, ⟨.terminal w.kind, node.position, node.position + w.size, 0, 0⟩⟩], node.weight⟩
      behind ?_).1, sound.results⟩
    intro l listed
    cases List.mem_singleton.mp listed
    refine ⟨⟨node.point, own, ?_⟩, fun none => absurd none items⟩
    exact {
      state := rfl
      proper := placed.proper
      start := rfl
      stop := rfl
      later := Nat.lt_add_of_pos_right size
      read := ⟨w, starts, rfl, rfl⟩ }

theorem Sound.accept (sound : f.Sound ts c) (there : f.point? v = some a) {w : Word}
    (starts : w ∈ Word.starts (ts.drop a.position)) (accepts : a.state.accepts w.kind = true) :
    (f.accept v).Sound ts c := by
  simp only [State.accepts, Bool.and_eq_true, decide_eq_true_eq, List.isEmpty_iff] at accepts
  obtain ⟨stop, none⟩ := accepts
  refine ⟨sound.graph, fun p mem => ?_⟩
  obtain old | new := List.mem_append.mp mem
  case inl => exact sound.results p old
  case inr =>
    obtain ⟨node, at', rfl⟩ := Option.map_eq_some_iff.mp there
    rw [at', Option.map_some, Option.getD_some] at new
    obtain ⟨l, listed, rfl⟩ := List.mem_map.mp new
    obtain ⟨n, _, found⟩ := head?_eq_some.mp at'
    obtain ⟨⟨b, there', leads⟩, whole⟩ := sound.graph.linked n node found l listed
    obtain ⟨first, symbol⟩ := whole none
    rw [first] at there'
    obtain rfl := Option.some.inj <| sound.graph.start.symm.trans there'
    have within := (sound.graph.placed n _ <| pointAt_of_getElem? found).within
    have reached : ts.length ≤ node.point.position :=
      List.drop_eq_nil_iff.mp <| Word.starts_stop starts stop
    exact ⟨symbol, leads.start, leads.stop.trans <| Nat.le_antisymm within reached, leads.read⟩

theorem Sound.reductions (sound : f.Sound ts c) (there : f.point? v = some a) {t : Terminal}
    {rules : List Nat} (ends : ∀ rule ∈ rules, rule ∈ (a.state.moves t).reductions) :
    let ended := rules.foldl
      (fun ((f, last) : Forest × Option Nat) rule =>
        let next := f.reduce v rule
        (next, if f.heads.length < next.heads.length then some f.heads.length else last))
      (f, none)
    Reduced ts c a.position f ended.1 ∧
      ∀ k ∈ ended.2, f.heads.length ≤ k ∧ k < ended.1.heads.length := by
  refine List.foldlRecOn
    (motive := fun (ended : Forest × Option Nat) => Reduced ts c a.position f ended.1 ∧
      ∀ k ∈ ended.2, f.heads.length ≤ k ∧ k < ended.1.heads.length)
    rules _ ⟨.refl sound, nofun⟩ fun (g, last) ⟨reduced, bounds⟩ rule mem => ?_
  have next := reduced.sound.reduce (reduced.point? there) (ends rule mem)
  dsimp only at next reduced bounds ⊢
  obtain ⟨new, heads, _⟩ := reduced.heads
  obtain ⟨new', heads', _⟩ := next.heads
  refine ⟨reduced.trans next, fun k mem => ?_⟩
  have first := congrArg List.length heads
  have second := congrArg List.length heads'
  rw [List.length_append] at first second
  split at mem
  case isTrue longer =>
    cases mem
    exact ⟨by omega, longer⟩
  case isFalse =>
    have bounds := bounds k mem
    exact ⟨bounds.1, by omega⟩

theorem Sound.readWord (sound : f.Sound ts c) (there : f.point? v = some a) {w : Word}
    (starts : w ∈ Word.starts (ts.drop a.position)) (fuel : Nat) :
    (f.readWord fuel v w).Sound ts c := by
  induction fuel generalizing f a w
  case zero => exact sound.halt v
  case succ fuel hi =>
    obtain ⟨node, at', rfl⟩ := Option.map_eq_some_iff.mp there
    unfold Forest.readWord
    rw [at']
    dsimp only
    split
    case isTrue accepts => exact sound.accept there starts accepts
    case isFalse =>
      -- The word that is read may be another one, but it starts at the same place.
      have plain : ∀ w', w' = (if w.isSpecial && !node.state.hasMoves w.kind
          then { w with kind := .name } else w) → w' ∈ Word.starts (ts.drop node.position) := by
        rintro _ rfl
        split
        case isTrue special => exact Word.name_mem_starts starts (Bool.and_eq_true _ _ ▸ special).1
        case isFalse => exact starts
      generalize (if w.isSpecial && !node.state.hasMoves w.kind
        then { w with kind := .name } else w) = w' at plain ⊢
      have starts' := plain w' rfl
      have ends : ∀ rule ∈ (node.state.moves w'.kind).reductions,
          rule ∈ (node.point.state.moves w'.kind).reductions := fun _ mem => mem
      obtain ⟨reduced, bounds⟩ := sound.reductions there ends
      revert reduced bounds
      generalize List.foldl _ _ (node.state.moves w'.kind).reductions = ended
      obtain ⟨g, last⟩ := ended
      intro reduced bounds
      dsimp only at reduced bounds ⊢
      split
      case isTrue shifts =>
        exact reduced.sound.shift (reduced.point? there) starts' <| State.reads_of_shifts shifts
      case isFalse =>
        split
        case h_2 => exact reduced.sound.halt v
        case h_1 k =>
          obtain ⟨b, there', position⟩ := reduced.point?_replaced there <| bounds k rfl
          have starts'' : w' ∈ Word.starts (ts.drop b.position) := by
            rw [position]
            exact starts'
          exact hi (f := { g with heads := (g.heads.set v g.heads[k]?.join).eraseIdx k })
            ⟨reduced.sound.graph, reduced.sound.results⟩ there' starts''

theorem Sound.advance (sound : f.Sound ts c) (fuel v last : Nat) :
    (Forest.advance ts.toArray fuel f v last).1.Sound ts c := by
  induction fuel generalizing f
  case zero => exact sound.halt v
  case succ fuel hi =>
    unfold Forest.advance
    split
    case h_1 => exact sound
    case h_2 node at' =>
      split
      case h_1 => exact sound.halt v
      case h_2 w next =>
        have read : (f.readWord (8 * ts.toArray.size + 8) v w).Sound ts c := by
          refine sound.readWord (a := node.point) ?_ (Word.mem_of_next? next) _
          rw [point?, at', Option.map_some]
        dsimp only
        split
        case h_1 => exact read
        case h_2 =>
          split
          case isTrue => exact read
          case isFalse => exact hi read

theorem Sound.advanceFrom (sound : f.Sound ts c) (fuel v last : Nat) :
    (Forest.advanceFrom ts.toArray fuel f v last).1.Sound ts c := by
  induction fuel generalizing f v last
  case zero => exact sound
  case succ fuel hi =>
    unfold Forest.advanceFrom
    split
    case isTrue => exact hi (sound.advance _ v last) _ _
    case isFalse => exact sound

theorem graph_insert {nodes : Array Node} (graph : Graph ts c nodes) (weight : Int) (n : Nat)
    (heads : List Nat) : Graph ts c (Forest.insert weight n nodes heads).1 := by
  induction heads generalizing nodes weight n
  case nil => exact graph
  case cons m ms hi =>
    unfold Forest.insert
    split
    case isTrue joinable =>
      obtain ⟨a, there, there'⟩ := graph.joined joinable
      exact (graph.join there there').1
    case isFalse =>
      split
      case isTrue => exact hi graph weight m
      case isFalse => exact hi graph weight n

theorem Sound.condense (sound : f.Sound ts c) : f.condense.Sound ts c := by
  refine ⟨?_, sound.results⟩
  exact List.foldlRecOn (motive := fun (q : Array Node × List Nat) => Graph ts c q.1) _ _ sound.graph
    fun (nodes, heads) graph n _ => graph_insert graph _ n heads

theorem Sound.run (sound : f.Sound ts c) (fuel last : Nat) :
    ∀ p ∈ Forest.run ts.toArray fuel f last, p.Whole ts c := by
  induction fuel generalizing f last
  case zero => exact sound.results
  case succ fuel hi =>
    unfold Forest.run
    split
    case isTrue => exact sound.results
    case isFalse => exact hi (sound.advanceFrom (2 * maxAdvanced) 0 last).condense _

theorem Sound.start (ts : List Token) (c : Category) : (Forest.start c).Sound ts c := by
  have only {n : Nat} {node : Node} (found : (Forest.start c).nodes[n]? = some node) :
      n = 0 ∧ node = ⟨.start c, 0, [], 0⟩ := by
    obtain ⟨bound, same⟩ := Array.getElem?_eq_some_iff.mp found
    obtain rfl : n = 0 := Nat.lt_one_iff.mp bound
    exact ⟨rfl, same.symm⟩
  refine ⟨⟨rfl, fun n a there => ?_, fun n node found l mem => ?_⟩, nofun⟩
  case refine_1 =>
    obtain ⟨node, found, rfl⟩ := Option.map_eq_some_iff.mp there
    obtain ⟨rfl, rfl⟩ := only found
    exact ⟨nofun, Nat.zero_le _, fun other => absurd rfl other⟩
  case refine_2 =>
    obtain ⟨rfl, rfl⟩ := only found
    cases mem

end Forest

end Forests

section Specifications

variable {leading : Bool} {p : Piece}

theorem whole_of_mem_readings (mem : p ∈ readings c ts) : p.Whole ts c :=
  (Forest.Sound.start ts c).run _ _ p mem

-- Whether tokens can be read as a name and a type with type parameters between them.
def Generic (ts : List Token) : Prop :=
  ∃ x ∈ [Symbol.category .type, .category .groupedType],
    Reads ts [.terminal .name, .category .parameters, x] 0 ts.length

-- Whether tokens can be read as a name with nothing but a type behind it.
def Direct (ts : List Token) : Prop :=
  ∃ x ∈ [Symbol.category .type, .category .groupedType],
    Reads ts [.terminal .name, x] 0 ts.length

theorem Grammar.symbols_of_spec : ∀ r ∈ Grammar.all, r.category = .spec →
    ∃ x ∈ [Symbol.category .type, .category .groupedType], r.symbols.toList =
      if r.symbols.size = 3 then [.terminal .name, .category .parameters, x]
      else [.terminal .name, x] := by
  decide +kernel

theorem Piece.Whole.spec (whole : p.Whole ts .spec) :
    if p.hasParameters then Generic ts else Direct ts := by
  obtain ⟨symbol, start, stop, read⟩ := whole
  rw [Read, symbol] at read
  obtain ⟨r, rule, category, size, parts⟩ := read
  obtain ⟨x, mem, symbols⟩ := Grammar.symbols_of_spec r rule category
  rw [start, stop, symbols, size] at parts
  split
  case isTrue three =>
    rw [if_pos (of_decide_eq_true three)] at parts
    exact ⟨x, mem, parts⟩
  case isFalse other =>
    rw [if_neg (fun three => other <| decide_eq_true three)] at parts
    exact ⟨x, mem, parts⟩

-- The tokens of a specification that counts for its reading.
def specified (ts : List Token) : List Token :=
  ts.filter (!·.isLineEnd)

-- Type parameters are only found where a specification can be read with them.
theorem generic_of_hasParameters (found : hasParameters leading ts = true) :
    Generic (specified ts) := by
  unfold hasParameters at found
  dsimp only at found
  split at found
  case h_1 => cases found
  case h_2 best heaviest =>
    have mem := Piece.heaviest?_mem heaviest
    have three : best.hasParameters = true := by
      split at found
      case isTrue => simpa using List.all_eq_true.mp found best mem
      case isFalse => exact found
    have spec := (whole_of_mem_readings mem).spec
    rwa [if_pos three] at spec

theorem readings_ne_nil_of_hasParameters (found : hasParameters leading ts = true) :
    readings .spec (specified ts) ≠ [] := by
  intro none
  unfold hasParameters at found
  rw [show ts.filter (!·.isLineEnd) = specified ts from rfl, none] at found
  cases found

-- If none are found, it can be read without them, or the parser does not get through.
theorem direct_of_not_hasParameters (none : hasParameters leading ts = false) :
    Direct (specified ts) ∨ readings .spec (specified ts) = [] := by
  have mem_direct {p : Piece} (mem : p ∈ readings .spec (specified ts))
      (other : p.hasParameters = false) : Direct (specified ts) := by
    have spec := (whole_of_mem_readings mem).spec
    rwa [if_neg (Bool.eq_false_iff.mp other)] at spec
  unfold hasParameters at none
  dsimp only at none
  split at none
  case h_1 heaviest =>
    right
    unfold Piece.heaviest? at heaviest
    split at heaviest
    case h_1 empty => exact empty
    case h_2 => cases heaviest
  case h_2 best heaviest =>
    left
    split at none
    case isTrue =>
      obtain ⟨p, mem, fails⟩ := List.all_eq_false.mp none
      refine mem_direct mem ?_
      simp only [Bool.or_eq_true, not_or, Bool.not_eq_true] at fails
      exact fails.2
    case isFalse => exact mem_direct (Piece.heaviest?_mem heaviest) none

end Specifications

end FlowIndex.Host
