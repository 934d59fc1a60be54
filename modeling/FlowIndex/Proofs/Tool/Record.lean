import FlowIndex.Proofs.Text.Digit
import FlowIndex.Proofs.Text.Run
import FlowIndex.Tool.Symbols
import Mathlib.Data.Option.Basic

namespace FlowIndex.Tool

open Text

variable {c : Char} {cs ds rest line path gap gap' name kind endColumn : List Char}
  {endLine : Option (List Char)} {r : Record}

section Runs

-- A run of characters of a kind, which is not empty.
structure IsRun (p : Char → Bool) (cs : List Char) : Prop where
  some : cs ≠ []
  all : ∀ c ∈ cs, p c = true

instance {p : Char → Bool} : DecidablePred (IsRun p) :=
  fun cs => decidable_of_iff (cs ≠ [] ∧ cs.all p = true)
    ⟨fun ⟨nonempty, all⟩ => ⟨nonempty, List.all_eq_true.mp all⟩,
      fun ⟨nonempty, all⟩ => ⟨nonempty, List.all_eq_true.mpr all⟩⟩

theorem after?_eq_some_iff : after? c cs = some rest ↔ cs = c :: rest := by
  cases cs
  case nil => simp [after?]
  case cons d cs =>
    rw [after?]
    split
    case isTrue same => simp [same]
    case isFalse other => simp [Ne.symm other]

theorem read_span_eq_some_iff {p : Char → Bool} :
    (match cs.span p with
      | ([], _) => none
      | r => some r) = some (ds, rest) ↔
      IsRun p ds ∧ cs = ds ++ rest ∧ ∀ c ∈ rest.head?, p c = false := by
  constructor
  case mp =>
    intro read
    cases same : cs.span p
    case mk first behind =>
      rw [same] at read
      obtain ⟨whole, all, stops⟩ := span_eq_iff.mp same
      cases first
      case nil => cases read
      case cons c first =>
        cases read
        exact ⟨⟨List.cons_ne_nil c first, all⟩, whole, stops⟩
  case mpr =>
    rintro ⟨run, whole, stops⟩
    rw [span_eq_iff.mpr ⟨whole, run.all, stops⟩]
    obtain ⟨c, ds, rfl⟩ := List.exists_cons_of_ne_nil run.some
    rfl

theorem digits?_eq_some_iff : digits? cs = some (ds, rest) ↔
    IsRun isDigit ds ∧ cs = ds ++ rest ∧ ∀ c ∈ rest.head?, isDigit c = false :=
  read_span_eq_some_iff

theorem word?_eq_some_iff : word? cs = some (ds, rest) ↔
    IsRun (!isBlank ·) ds ∧ cs = ds ++ rest ∧ ∀ c ∈ rest.head?, isBlank c = true := by
  refine Iff.trans read_span_eq_some_iff ?_
  simp only [Bool.not_eq_false']

theorem afterBlanks?_eq_some_iff : afterBlanks? cs = some rest ↔
    ∃ gap, IsRun isBlank gap ∧ cs = gap ++ rest ∧ ∀ c ∈ rest.head?, isBlank c = false := by
  refine Iff.trans ?_ <| exists_congr fun gap => read_span_eq_some_iff
  unfold afterBlanks?
  obtain ⟨_ | ⟨c, gap⟩, behind⟩ := cs.span isBlank
  case nil => simp
  case cons => simp

end Runs

section Fields

-- Where a symbol ends, as it is written.
def endText (endLine : Option (List Char)) (endColumn : List Char) : List Char :=
  match endLine with
  | some line => line ++ ':' :: endColumn
  | none => endColumn

theorem ending?_eq_some_iff : ending? cs = some (endLine, endColumn, rest) ↔
    (∀ ds ∈ endLine, IsRun isDigit ds) ∧ IsRun isDigit endColumn ∧
      cs = endText endLine endColumn ++ rest ∧ (∀ c ∈ rest.head?, isDigit c = false) ∧
      (endLine = none → rest.head? ≠ some ':') := by
  simp only [ending?, Option.bind_eq_bind, Option.bind_eq_some_iff, Prod.exists]
  constructor
  case mp =>
    rintro ⟨first, behind, read, ends⟩
    obtain ⟨run, rfl, stops⟩ := digits?_eq_some_iff.mp read
    split at ends
    case h_1 second colon =>
      rw [Option.map_eq_some_iff] at ends
      obtain ⟨⟨column, rest'⟩, read, same⟩ := ends
      cases same
      obtain ⟨run', rfl, stops'⟩ := digits?_eq_some_iff.mp read
      cases after?_eq_some_iff.mp colon
      refine ⟨?_, run', by simp [endText], stops', by simp⟩
      rintro _ ⟨⟩
      exact run
    case h_2 other =>
      cases ends
      refine ⟨by simp, run, rfl, stops, fun _ colon => ?_⟩
      obtain ⟨behind, rfl⟩ := List.head?_eq_some_iff.mp colon
      simp [after?] at other
  case mpr =>
    rintro ⟨lines, run, rfl, stops, colon⟩
    cases endLine
    case none =>
      refine ⟨endColumn, rest, digits?_eq_some_iff.mpr ⟨run, rfl, stops⟩, ?_⟩
      split
      case h_1 behind same =>
        rw [after?_eq_some_iff] at same
        exact absurd (by rw [same]; rfl) (colon rfl)
      case h_2 => rfl
    case some line =>
      refine ⟨line, ':' :: (endColumn ++ rest), ?_, ?_⟩
      case refine_1 =>
        refine digits?_eq_some_iff.mpr ⟨lines line rfl, by simp [endText], ?_⟩
        rintro _ ⟨⟩
        decide
      case refine_2 =>
        have column := digits?_eq_some_iff.mpr ⟨run, rfl, stops⟩
        simp only [after?, if_pos, column, Option.map_some]

theorem words?_eq_some_iff : words? cs = some (name, kind) ↔
    IsRun (!isBlank ·) name ∧ IsRun (!isBlank ·) kind ∧
      ∃ gap gap', IsRun isBlank gap ∧ IsRun isBlank gap' ∧ cs = gap ++ (name ++ (gap' ++ kind)) := by
  simp only [words?, Option.bind_eq_bind, Option.bind_eq_some_iff, Prod.exists]
  constructor
  case mp =>
    rintro ⟨_, blanks, _, _, read, _, blanks', _, behind, read', _, whole, same⟩
    obtain ⟨gap, run, rfl, _⟩ := afterBlanks?_eq_some_iff.mp blanks
    obtain ⟨named, rfl, _⟩ := word?_eq_some_iff.mp read
    obtain ⟨gap', run', rfl, _⟩ := afterBlanks?_eq_some_iff.mp blanks'
    obtain ⟨kinded, rfl, _⟩ := word?_eq_some_iff.mp read'
    cases same
    have last : behind = [] := List.isEmpty_iff.mp <| (Option.guard_eq_some' ()).mp whole
    rw [last, List.append_nil]
    exact ⟨named, kinded, gap, gap', run, run', rfl⟩
  case mpr =>
    rintro ⟨named, kinded, gap, gap', run, run', rfl⟩
    have starts {cs : List Char} (more : List Char) (run : IsRun (!isBlank ·) cs) :
        ∀ c ∈ (cs ++ more).head?, isBlank c = false := by
      obtain ⟨c, cs, rfl⟩ := List.exists_cons_of_ne_nil run.some
      rintro _ ⟨⟩
      simpa using run.all c List.mem_cons_self
    have stops {more : List Char} : ∀ c ∈ (gap' ++ more).head?, isBlank c = true := by
      obtain ⟨c, cs, rfl⟩ := List.exists_cons_of_ne_nil run'.some
      rintro _ ⟨⟩
      exact run'.all c List.mem_cons_self
    have last := starts [] kinded
    rw [List.append_nil] at last
    refine ⟨_, afterBlanks?_eq_some_iff.mpr ⟨gap, run, rfl, starts _ named⟩, _, _,
      word?_eq_some_iff.mpr ⟨named, rfl, stops⟩, _,
      afterBlanks?_eq_some_iff.mpr ⟨gap', run', rfl, last⟩, kind, [],
      word?_eq_some_iff.mpr ⟨kinded, (List.append_nil kind).symm, nofun⟩, (), rfl, rfl⟩

namespace Record

-- The parts of a record are runs of the characters that are read for them.
structure Formed (r : Record) : Prop where
  line : IsRun isDigit r.line
  column : IsRun isDigit r.column
  endLine : ∀ ds ∈ r.endLine, IsRun isDigit ds
  endColumn : IsRun isDigit r.endColumn
  name : IsRun (!isBlank ·) r.name
  kind : IsRun (!isBlank ·) r.kind

-- What is written behind the path of a record.
def fields (r : Record) (gap gap' : List Char) : List Char :=
  ':' :: (r.line ++ ':' :: (r.column ++ '-' :: (endText r.endLine r.endColumn ++
    (gap ++ (r.name ++ (gap' ++ r.kind))))))

-- A record is written in a line that holds nothing else.
structure Reads (r : Record) (line : List Char) : Prop where
  path : r.path ≠ []
  formed : r.Formed
  text : ∃ gap gap', IsRun isBlank gap ∧ IsRun isBlank gap' ∧ line = r.path ++ r.fields gap gap'

end Record

theorem digits?_append (run : IsRun isDigit ds) (stops : isDigit c = false) :
    digits? (ds ++ c :: rest) = some (ds, c :: rest) := by
  refine digits?_eq_some_iff.mpr ⟨run, rfl, ?_⟩
  rintro _ ⟨⟩
  exact stops

theorem fields?_eq_some_iff : fields? path cs = some r ↔ r.path = path ∧ r.Formed ∧
    ∃ gap gap', IsRun isBlank gap ∧ IsRun isBlank gap' ∧ cs = r.fields gap gap' := by
  simp only [fields?, Option.bind_eq_bind, Option.bind_eq_some_iff, Prod.exists]
  constructor
  case mp =>
    rintro ⟨_, colon, line, _, lines, _, colon', column, _, columns, _, dash, endLine, endColumn, _,
      ends, name, kind, words, same⟩
    cases same
    cases after?_eq_some_iff.mp colon
    obtain ⟨line, rfl, _⟩ := digits?_eq_some_iff.mp lines
    cases after?_eq_some_iff.mp colon'
    obtain ⟨column, rfl, _⟩ := digits?_eq_some_iff.mp columns
    cases after?_eq_some_iff.mp dash
    obtain ⟨endLine, endColumn, rfl, _⟩ := ending?_eq_some_iff.mp ends
    obtain ⟨name, kind, gap, gap', run, run', rfl⟩ := words?_eq_some_iff.mp words
    exact ⟨rfl, ⟨line, column, endLine, endColumn, name, kind⟩, gap, gap', run, run', rfl⟩
  case mpr =>
    rintro ⟨rfl, formed, gap, gap', run, run', rfl⟩
    obtain ⟨b, bs, rfl⟩ := List.exists_cons_of_ne_nil run.some
    have blank : isBlank b = true := run.all b List.mem_cons_self
    have ends : ending? (endText r.endLine r.endColumn ++ (b :: bs ++ (r.name ++ (gap' ++ r.kind)))) =
        some (r.endLine, r.endColumn, b :: bs ++ (r.name ++ (gap' ++ r.kind))) := by
      refine ending?_eq_some_iff.mpr ⟨formed.endLine, formed.endColumn, rfl, ?_, ?_⟩
      case refine_1 =>
        rintro _ ⟨⟩
        exact isDigit_eq_false_of_isBlank blank
      case refine_2 =>
        rintro - ⟨⟩
        exact absurd blank (by decide)
    exact ⟨_, after?_eq_some_iff.mpr rfl, r.line, _, digits?_append formed.line (by decide), _,
      after?_eq_some_iff.mpr rfl, r.column, _, digits?_append formed.column (by decide), _,
      after?_eq_some_iff.mpr rfl, r.endLine, r.endColumn, _, ends, r.name, r.kind,
      words?_eq_some_iff.mpr ⟨formed.name, formed.kind, b :: bs, gap', run, run', rfl⟩, rfl⟩

end Fields

section Lines

theorem fields?_of_recordFrom? (h : recordFrom? path cs = some r) :
    ∃ ahead rest, cs = ahead ++ rest ∧ path.reverse ++ ahead ≠ [] ∧
      fields? (path.reverse ++ ahead) rest = some r := by
  induction cs generalizing path
  case nil => cases h
  case cons c cs hi =>
    rw [recordFrom?] at h
    split at h
    case h_1 r' here =>
      cases h
      split at here
      case isTrue => cases here
      case isFalse some =>
        refine ⟨[], c :: cs, rfl, ?_, by rwa [List.append_nil]⟩
        simpa using some
    case h_2 =>
      obtain ⟨ahead, rest, rfl, some, read⟩ := hi h
      rw [List.reverse_cons, List.append_assoc] at some read
      exact ⟨c :: ahead, rest, rfl, some, read⟩

theorem fields?_eq_none (h : recordFrom? path cs = none) {ahead : List Char}
    (split : cs = ahead ++ rest) (some : path.reverse ++ ahead ≠ []) :
    fields? (path.reverse ++ ahead) rest = none := by
  induction cs generalizing path ahead
  case nil =>
    obtain ⟨rfl, rfl⟩ := List.append_eq_nil_iff.mp split.symm
    rfl
  case cons c cs hi =>
    rw [recordFrom?] at h
    split at h
    case h_1 => cases h
    case h_2 here =>
      cases ahead
      case nil =>
        rw [List.append_nil] at some ⊢
        have nonempty : path.isEmpty = false := by simpa using some
        rwa [nonempty, split] at here
      case cons d ahead =>
        cases split
        have later := hi h rfl (by simp)
        rwa [List.reverse_cons, List.append_assoc] at later

theorem recordFrom?_fields (formed : r.Formed) (run : IsRun isBlank gap) (run' : IsRun isBlank gap')
    {ahead : List Char} (whole : path.reverse ++ ahead = r.path) (some : r.path ≠ [])
    (plain : ':' ∉ ahead) : recordFrom? path (ahead ++ r.fields gap gap') = .some r := by
  induction ahead generalizing path
  case nil =>
    rw [List.append_nil] at whole
    have nonempty : path.isEmpty = false := by
      rw [← whole] at some
      simpa using some
    have here := fields?_eq_some_iff.mpr ⟨whole.symm, formed, gap, gap', run, run', rfl⟩
    rw [List.nil_append]
    rw [Record.fields] at here ⊢
    simp only [recordFrom?, nonempty, here, if_neg, Bool.false_eq_true, not_false_iff]
  case cons c ahead hi =>
    obtain ⟨other, plain⟩ := not_or.mp (List.mem_cons.not.mp plain)
    have none : fields? path.reverse (c :: (ahead ++ r.fields gap gap')) = none := by
      simp [fields?, after?, other]
    rw [List.cons_append, recordFrom?, none, ite_self]
    exact hi (by simpa using whole) plain

theorem reads_of_record? (h : record? line = some r) : r.Reads line := by
  obtain ⟨path, rest, rfl, some, read⟩ := fields?_of_recordFrom? h
  obtain ⟨rfl, formed, gap, gap', run, run', rfl⟩ := fields?_eq_some_iff.mp read
  exact ⟨some, formed, gap, gap', run, run', rfl⟩

theorem record?_eq_none_iff : record? line = none ↔ ∀ r : Record, ¬r.Reads line := by
  constructor
  case mp =>
    rintro none r ⟨some, formed, gap, gap', run, run', whole⟩
    have read := fields?_eq_some_iff.mpr ⟨rfl, formed, gap, gap', run, run', rfl⟩
    exact absurd (fields?_eq_none none whole some) (by simp [read])
  case mpr =>
    intro other
    cases read : record? line
    case none => rfl
    case some r => exact absurd (reads_of_record? read) (other r)

-- A record whose path holds no colon is the only one that its line can be read as.
theorem Record.Reads.record? (h : r.Reads line) (plain : ':' ∉ r.path) : record? line = some r := by
  obtain ⟨some, formed, gap, gap', run, run', rfl⟩ := h
  exact recordFrom?_fields formed run run' rfl some plain

end Lines

end FlowIndex.Tool
