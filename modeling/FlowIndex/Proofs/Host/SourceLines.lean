import FlowIndex.Proofs.Host.Tree
import FlowIndex.Proofs.LineIndex.Append
import FlowIndex.Proofs.Text.Utf8
import FlowIndex.Text.Infix

namespace FlowIndex

namespace Text

variable {c : Char} {cs : List Char}

theorem utf8_append (cs more : List Char) : utf8 (cs ++ more) = utf8 cs ++ utf8 more :=
  List.flatMap_append

theorem lineFeed_mem_utf8EncodeChar_iff :
    Host.lineFeed ∈ String.utf8EncodeChar c ↔ c = '\n' := by
  have feed {n : Nat} (h : n < 256) : Host.lineFeed = UInt8.ofNat n ↔ n = 10 := by
    rw [← UInt8.toNat_inj, toNat_ofNat h]
    exact eq_comm
  have number : c = '\n' ↔ c.val.toNat = 10 := by
    rw [← Char.val_inj, ← UInt32.toNat_inj]
    rfl
  rw [number]
  fun_cases String.utf8EncodeChar c
  case case1 v one =>
    rw [List.mem_singleton]
    exact feed (by omega)
  all_goals
    simp only [List.mem_cons, List.not_mem_nil, or_false]
    repeat rw [feed (by omega)]
    omega

theorem lineFeed_mem_utf8_iff : Host.lineFeed ∈ utf8 cs ↔ '\n' ∈ cs := by
  rw [utf8, List.mem_flatMap]
  constructor
  case mp =>
    rintro ⟨c, mem, feed⟩
    rwa [← lineFeed_mem_utf8EncodeChar_iff.mp feed]
  case mpr => exact fun mem => ⟨_, mem, lineFeed_mem_utf8EncodeChar_iff.mpr rfl⟩

end Text

namespace Host

open Text

variable {cs pre : List Char} {a b : Nat}

section Lines

theorem exists_lastLine (cs : List Char) : ∃ pre, cs = pre ++ lastLine cs ∧
    (pre = [] ∨ pre.getLast? = some '\n') ∧ '\n' ∉ lastLine cs := by
  refine ⟨(cs.reverse.dropWhile (· ≠ '\n')).reverse, ?_, ?_, fun mem => ?_⟩
  case refine_1 =>
    rw [lastLine, ← List.reverse_append, List.takeWhile_append_dropWhile, List.reverse_reverse]
  case refine_2 =>
    rw [List.reverse_eq_nil_iff, List.getLast?_reverse]
    cases behind : cs.reverse.dropWhile (· ≠ '\n')
    case nil => exact .inl rfl
    case cons c rest =>
      have stop := List.head?_dropWhile_not (· ≠ '\n') cs.reverse
      rw [behind] at stop
      exact .inr <| by simpa using stop
  case refine_3 =>
    have inside := List.all_eq_true.mp List.all_takeWhile _ (List.mem_reverse.mp mem)
    simp at inside

theorem byteLines_append (front back : List UInt8) :
    byteLines (front ++ lineFeed :: back) = byteLines front ++ byteLines back := by
  have some (bs : List UInt8) : byteLines bs ≠ [] := by
    cases bs
    case nil => exact List.cons_ne_nil _ _
    case cons =>
      rw [byteLines]
      split
      case isTrue => exact List.cons_ne_nil _ _
      case isFalse => split <;> exact List.cons_ne_nil _ _
  induction front
  case nil => simp [byteLines]
  case cons b front hi =>
    rw [List.cons_append, byteLines, byteLines, hi]
    split
    case isTrue => rfl
    case isFalse =>
      obtain ⟨line, lines, same⟩ := List.exists_cons_of_ne_nil (some front)
      rw [same]
      rfl

theorem head?_byteLines (bs : List UInt8) :
    (byteLines bs).head? = some (bs.takeWhile (· ≠ lineFeed)) := by
  induction bs
  case nil => rfl
  case cons b bs hi =>
    rw [byteLines]
    split
    case isTrue feed => simp [feed]
    case isFalse other =>
      rw [List.takeWhile_cons_of_pos (by simpa using other)]
      split
      case h_1 none => rw [none] at hi; cases hi
      case h_2 line lines same =>
        rw [same] at hi
        cases hi
        rfl

theorem length_byteLines (cs : List Char) : (byteLines (utf8 cs)).length = cs.count '\n' + 1 := by
  have keeps {front : List UInt8} (plain : lineFeed ∉ front) (back : List UInt8) :
      (byteLines (front ++ back)).length = (byteLines back).length := by
    induction front
    case nil => rfl
    case cons b front hi =>
      rw [List.mem_cons, not_or] at plain
      obtain ⟨other, plain⟩ := plain
      rw [List.cons_append, byteLines, if_neg (Ne.symm other), ← hi plain]
      split
      case h_1 none =>
        have := head?_byteLines (front ++ back)
        rw [none] at this
        cases this
      case h_2 same => rw [same]; rfl
  induction cs
  case nil => rfl
  case cons c cs hi =>
    have bytes : utf8 (c :: cs) = String.utf8EncodeChar c ++ utf8 cs := List.flatMap_cons
    rw [bytes]
    by_cases feed : c = '\n'
    case pos =>
      subst feed
      rw [List.count_cons_self, ← hi]
      rfl
    case neg =>
      rw [keeps (mt lineFeed_mem_utf8EncodeChar_iff.mp feed), hi, List.count_cons_of_ne feed]

theorem getD_byteLines (lines : pre = [] ∨ pre.getLast? = some '\n') (back : List UInt8) :
    (byteLines (utf8 pre ++ back)).getD (pre.count '\n') [] = back.takeWhile (· ≠ lineFeed) := by
  have first : (byteLines back).getD 0 [] = back.takeWhile (· ≠ lineFeed) := by
    rw [List.getD_eq_getElem?_getD, ← List.head?_eq_getElem?, head?_byteLines]
    rfl
  obtain rfl | newline := lines
  case inl => exact first
  case inr =>
    obtain ⟨front, rfl⟩ := List.getLast?_eq_some_iff.mp newline
    have bytes : utf8 (front ++ ['\n']) ++ back = utf8 front ++ lineFeed :: back := by
      rw [utf8_append, List.append_assoc]
      rfl
    have count : (front ++ ['\n']).count '\n' = (byteLines (utf8 front)).length := by
      rw [length_byteLines, List.count_append]
      rfl
    rw [bytes, byteLines_append, count, List.getD_eq_getElem?_getD,
      List.getElem?_append_right (Nat.le_refl _), Nat.sub_self, ← List.getD_eq_getElem?_getD, first]

end Lines

section Positions

-- The place of an offset: as many lines down as there are line feeds in front of it, and as far in
-- its line as that goes on in front of it.
theorem position_eq (cs : List Char) (a : Nat) : (LineIndex.ofChars cs).position a =
    ⟨(cs.take a).count '\n', (lastLine (cs.take a)).length⟩ := by
  have length : (cs.take a).length = min a cs.length := List.length_take
  have shorter : (LineIndex.ofChars cs).position a =
      (LineIndex.ofChars (cs.take a)).position (cs.take a).length := by
    have front := LineIndex.position_before (Nat.le_refl (cs.take a).length) (cs.drop a)
    rw [List.take_append_drop, length] at front
    rw [length, ← front]
    exact (LineIndex.position_min _ a).symm
  rw [shorter]
  obtain ⟨pre, split, lines, inside⟩ := exists_lastLine (cs.take a)
  generalize lastLine (cs.take a) = last at split inside
  have single : (LineIndex.ofChars last).position last.length = ⟨0, last.length⟩ := by
    have none : LineIndex.startsFrom 0 last = [] := by
      rw [← List.length_eq_zero_iff, LineIndex.length_startsFrom]
      exact List.count_eq_zero.mpr inside
    simp [LineIndex.position, LineIndex.ofChars, none, LineIndex.locate]
  rw [split, List.count_append, List.count_eq_zero.mpr inside, Nat.add_zero]
  obtain rfl | newline := lines
  case inl => exact single
  case inr =>
    rw [List.length_append, Nat.add_comm, LineIndex.position_behind newline, single]
    simp [Position.down]

theorem SourceLines.position_atOffset (cs : List Char) (a : Nat) :
    (SourceLines.ofBytes (utf8 cs)).position (.atOffset cs a) = (LineIndex.ofChars cs).position a := by
  rw [position_eq]
  obtain ⟨pre, split, lines, inside⟩ := exists_lastLine (cs.take a)
  have bytes : utf8 cs = utf8 pre ++ (utf8 (lastLine (cs.take a)) ++ utf8 (cs.drop a)) := by
    rw [← utf8_append, ← utf8_append, ← List.append_assoc, ← split, List.take_append_drop]
  have rows : (cs.take a).count '\n' = pre.count '\n' := by
    conv => lhs; rw [split]
    rw [List.count_append, List.count_eq_zero.mpr inside, Nat.add_zero]
  have line : ((byteLines (utf8 cs)).getD (pre.count '\n') []).take
      (utf8 (lastLine (cs.take a))).length = utf8 (lastLine (cs.take a)) := by
    have plain : ∀ b ∈ utf8 (lastLine (cs.take a)), decide (b ≠ lineFeed) = true := by
      intro b mem
      refine decide_eq_true fun feed => inside ?_
      rwa [← lineFeed_mem_utf8_iff, ← feed]
    rw [bytes, getD_byteLines lines, List.takeWhile_append_of_pos plain, List.take_left]
  simp only [position, ofBytes, SourcePoint.atOffset]
  rw [rows, line, decodeLossy_utf8]

theorem SourceLines.span_atOffset (cs : List Char) (a b : Nat) :
    (SourceLines.ofBytes (utf8 cs)).span (.atOffset cs a) (.atOffset cs b) =
      (LineIndex.ofChars cs).span a b := by
  rw [span, position_atOffset, position_atOffset]
  rfl

end Positions

section Slices

theorem drop_byteOffset (cs : List Char) (a : Nat) :
    (utf8 cs).drop (byteOffset cs a) = utf8 (cs.drop a) := by
  have bytes : utf8 cs = utf8 (cs.take a) ++ utf8 (cs.drop a) := by
    rw [← utf8_append, List.take_append_drop]
  rw [byteOffset, bytes, List.drop_left]

theorem byteOffset_sub (le : a ≤ b) :
    byteOffset cs b - byteOffset cs a = byteOffset (cs.drop a) (b - a) := by
  have split : cs.take b = cs.take a ++ (cs.drop a).take (b - a) := by
    rw [← List.take_add, Nat.add_sub_cancel' le]
  rw [byteOffset, split, utf8_append, List.length_append]
  exact Nat.add_sub_cancel_left ..

theorem byteOffset_lt (less : a < b) (within : b ≤ cs.length) : byteOffset cs a < byteOffset cs b := by
  have split : cs.take b = cs.take a ++ (cs.drop a).take (b - a) := by
    rw [← List.take_add, Nat.add_sub_cancel' (Nat.le_of_lt less)]
  have filled : utf8 ((cs.drop a).take (b - a)) ≠ [] := by
    cases slice : (cs.drop a).take (b - a)
    case nil =>
      have length := congrArg List.length slice
      rw [List.length_take, List.length_drop, List.length_nil] at length
      omega
    case cons c rest =>
      obtain ⟨b, bs, bytes, _⟩ := head_utf8EncodeChar c []
      rw [utf8, List.flatMap_cons, bytes]
      exact List.cons_ne_nil _ _
  rw [byteOffset, byteOffset, split, utf8_append, List.length_append]
  exact Nat.lt_add_of_pos_right <| List.length_pos_iff.mpr filled

theorem extract_offset_position (cs : List Char) (a b : Nat) :
    let index := LineIndex.ofChars cs
    cs.extract (index.offset (index.position a)) (index.offset (index.position b)) =
      (cs.drop a).take (b - a) := by
  intro index
  have length : index.length = cs.length := rfl
  rw [LineIndex.offset_position_min, LineIndex.offset_position_min, length,
    List.extract_eq_take_drop]
  obtain le | behind := Nat.le_total a cs.length
  case inl =>
    rw [Nat.min_eq_left le, List.take_eq_take_iff, List.length_drop]
    omega
  case inr =>
    rw [List.drop_eq_nil_of_le (by omega), List.drop_eq_nil_of_le (by omega), List.take_nil,
      List.take_nil]

theorem textBetween_byteOffset (cs : List Char) (a b : Nat) :
    textBetween (utf8 cs) (byteOffset cs a) (byteOffset cs b) = (cs.drop a).take (b - a) := by
  have front (cs : List Char) (a : Nat) : (utf8 cs).take (byteOffset cs a) = utf8 (cs.take a) := by
    have bytes : utf8 cs = utf8 (cs.take a) ++ utf8 (cs.drop a) := by
      rw [← utf8_append, List.take_append_drop]
    rw [byteOffset, bytes, List.take_left]
  rw [textBetween, drop_byteOffset]
  by_cases le : a ≤ b
  case pos => rw [byteOffset_sub le, front, decodeLossy_utf8]
  case neg =>
    have less : byteOffset cs b ≤ byteOffset cs a := by
      have split : cs.take a = cs.take b ++ (cs.drop b).take (a - b) := by
        rw [← List.take_add, Nat.add_sub_cancel' (by omega)]
      rw [byteOffset, byteOffset, split, utf8_append, List.length_append]
      exact Nat.le_add_right ..
    rw [Nat.sub_eq_zero_of_le less, Nat.sub_eq_zero_of_le (by omega), List.take_zero, List.take_zero]
    rfl

end Slices

section Structs

theorem Tree.Between.exists_slice {t : Tree} (between : t.Between cs) : ∃ a b,
    t.start = .atOffset cs a ∧ t.stop = .atOffset cs b ∧
      t.text (utf8 cs) = String.ofList ((cs.drop a).take (b - a)) := by
  obtain ⟨a, b, start, stop⟩ := between
  refine ⟨a, b, start, stop, ?_⟩
  rw [text, start, stop]
  exact congrArg String.ofList <| textBetween_byteOffset cs a b

variable {source uri path : String} {time : Int} {parser : Parser} {ss : List Struct} {s : Struct}

-- A search through sources for a struct may pass over those that do not have the name in them.
theorem occursIn_of_mem_structs (ok : structs source uri path time parser = .ok ss) (mem : s ∈ ss) :
    occursIn s.name.toList source.toList = true := by
  obtain ⟨package, spec, name, found, rfl⟩ := exists_of_mem_structs ok mem
  have node := (Tree.mem_nodes_of_mem_sortedSpecs found).2
  obtain ⟨a, b, _, _, slice⟩ := (parser.between source.toList name node).exists_slice
  rw [structOf, slice, String.toList_ofList]
  exact occursIn_iff.mpr <| (List.take_prefix ..).isInfix.trans (List.drop_suffix ..).isInfix

-- Every offset is at the same place whether bytes or characters are counted, so that the text in the
-- span of a struct is its definition, whatever the parser makes of the source.
theorem coordinates_agree (source : String) :
    (∀ offset ≤ source.toList.length,
      (SourceLines.ofBytes (utf8 source.toList)).position (.atOffset source.toList offset) =
        (LineIndex.ofChars source.toList).position offset) ∧
    ∀ uri path modified parser ss, structs source uri path modified parser = .ok ss → ∀ s ∈ ss,
      s.definition = "type " ++ String.ofList (source.toList.extract
        ((LineIndex.ofChars source.toList).offset s.span.start)
        ((LineIndex.ofChars source.toList).offset s.span.stop)) := by
  refine ⟨fun offset _ => SourceLines.position_atOffset source.toList offset, ?_⟩
  intro uri path modified parser ss ok s mem
  obtain ⟨package, spec, name, found, rfl⟩ := exists_of_mem_structs ok mem
  have node := (Tree.mem_nodes_of_mem_sortedSpecs found).1
  obtain ⟨a, b, start, stop, slice⟩ := (parser.between source.toList spec node).exists_slice
  simp only [structOf, slice, start, stop, Edge.atOffset, SourceLines.span_atOffset]
  rw [LineIndex.span, extract_offset_position]

-- A struct behind a character of four bytes, with carriage returns and a line of its own.
def wideSource : String :=
  "package p\r\n/* 𝄞é */ type Ä struct\x7bx int // ß\r\n\x7d\n"

theorem coordinates_agree_wide :
    let s : Struct :=
      { name := "Ä", package := "p", uri := "", path := "", span := ⟨⟨1, 14⟩, ⟨2, 1⟩⟩, modified := 0
        definition := "type Ä struct\x7bx int // ß\r\n\x7d" }
    structs wideSource "" "" 0 = .ok [s] ∧
      (SourceLines.ofBytes (utf8 wideSource.toList)).position ⟨1, 18⟩ = ⟨1, 14⟩ ∧
      s.definition = "type " ++ String.ofList (wideSource.toList.extract
        ((LineIndex.ofChars wideSource.toList).offset s.span.start)
        ((LineIndex.ofChars wideSource.toList).offset s.span.stop)) := by
  intro s
  have ok : structs wideSource "" "" 0 = .ok [s] := by
    have known : (structs wideSource "" "" 0).toOption = some [s] := by decide +kernel
    generalize structs wideSource "" "" 0 = found at known ⊢
    cases found
    all_goals cases known
    rfl
  obtain ⟨places, slices⟩ := coordinates_agree wideSource
  refine ⟨ok, ?_, slices _ _ _ _ _ ok s List.mem_cons_self⟩
  have point : SourcePoint.atOffset wideSource.toList 25 = ⟨1, 18⟩ := by decide +kernel
  rw [← point, places 25 (by decide +kernel)]
  decide +kernel

end Structs

end Host

end FlowIndex
