import FlowIndex.Proofs.Naming
import FlowIndex.Proofs.Tool.Record
import Mathlib

namespace FlowIndex.Tool

open Text

section Output

-- A text that no line end parts.
def Unbroken (cs : List Char) : Prop :=
  ∀ c ∈ cs, isLineEnd c = false

instance : DecidablePred Unbroken :=
  fun cs => decidable_of_iff (cs.all (!isLineEnd ·) = true) (by simp [Unbroken])

-- The digits of a number that counts from one and is not too long to be read.
structure Counts (ds : List Char) : Prop extends IsRun isDigit ds where
  short : ds.length ≤ digitLimit
  positive : 1 ≤ decimalValue ds

instance : DecidablePred Counts :=
  fun ds => decidable_of_iff (IsRun isDigit ds ∧ ds.length ≤ digitLimit ∧ 1 ≤ decimalValue ds)
    ⟨fun ⟨run, short, positive⟩ => ⟨run, short, positive⟩,
      fun ⟨run, short, positive⟩ => ⟨run, short, positive⟩⟩

namespace Record

-- A record as the tool prints it.
structure Proper (r : Record) : Prop where
  path : r.path ≠ []
  colon : ':' ∉ r.path
  null : Char.ofNat 0 ∉ r.path
  unbroken : Unbroken r.path
  starts : ∀ c ∈ r.path.head?, isBlank c = false
  line : Counts r.line
  column : Counts r.column
  endLine : ∀ ds ∈ r.endLine, Counts ds
  endColumn : Counts r.endColumn
  name : IsRun (!isBlank ·) r.name
  kind : IsRun (!isBlank ·) r.kind

-- A record is of a struct of the given name, which may stand behind its package. The letters of the
-- kind may be of either case.
structure Declares (r : Record) (name : List Char) : Prop where
  kind : List.Forall₂ (fun c d => d = c ∨ d = c.toUpper) "struct".toList r.kind
  name : r.name = name ∨ ('.' :: name) <:+ r.name

-- The file of a record, which may be seen from another directory.
def file (r : Record) : Path :=
  .ofString (String.ofList r.path)

-- The place of a record in the file at a path. Without a line for its end it ends in the line in
-- which it starts.
def placeIn (r : Record) (path : Path) : Location where
  uri := Uri.ofPath path
  span :=
    { start := ⟨decimalValue r.line - 1, decimalValue r.column - 1⟩
      stop := ⟨decimalValue (r.endLine.getD r.line) - 1, decimalValue r.endColumn - 1⟩ }

-- The place of a record whose path is seen from the root, with no symbolic link on the way.
def place (root : Path) (r : Record) : Location :=
  r.placeIn (Path.resolve root r.file)

end Record

-- A blank that does not end the line.
def isSpacing (c : Char) : Bool :=
  isBlank c && !isLineEnd c

-- Blanks around a record, of which there may be none.
def Margin (cs : List Char) : Prop :=
  ∀ c ∈ cs, isSpacing c = true

instance : DecidablePred Margin :=
  fun cs => decidable_of_iff (cs.all isSpacing = true) List.all_eq_true

-- What a line of the output shows: a record with blanks around it and between its parts, or none.
inductive Shows : Option Record → List Char → Prop
  | record {r : Record} {left right gap gap' : List Char} (proper : r.Proper) (before : Margin left)
      (behind : Margin right) (apart : IsRun isSpacing gap) (apart' : IsRun isSpacing gap') :
      Shows (some r) (left ++ (r.path ++ r.fields gap gap' ++ right))
  | other {line : List Char} (unbroken : Unbroken line) (other : ∀ r : Record, ¬r.Reads (trim line)) :
      Shows none line

-- An output with the records that its lines show.
inductive Printed : List Record → List Char → Prop
  | nil : Printed [] []
  | last {shown : Option Record} {line : List Char} (shows : Shows shown line) :
      Printed shown.toList line
  | line {shown : Option Record} {rs : List Record} {line ending cs : List Char}
      (shows : Shows shown line) (ends : IsRun isLineEnd ending) (behind : Printed rs cs) :
      Printed (shown.toList ++ rs) (line ++ (ending ++ cs))

end Output

variable {c : Char} {cs line ending left right gap gap' ds : List Char} {lines : List (List Char)}
  {cwd root : Path} {resolve : Path → Except UriError Path} {r : Record} {rs : List Record} {shown : Option Record}

section Lines

theorem splitLines_end (cs : List Char) (h : isLineEnd c = true) :
    ∃ lines, splitLines (c :: cs) = [] :: lines ∧
      lines.filter (· ≠ []) = (splitLines cs).filter (· ≠ []) := by
  by_cases both : c = '\r' ∧ cs.head? = some '\n'
  case pos =>
    obtain ⟨rfl, head⟩ := both
    obtain ⟨cs, rfl⟩ := List.head?_eq_some_iff.mp head
    refine ⟨splitLines cs, by rw [splitLines], ?_⟩
    have behind : splitLines ('\n' :: cs) = [] :: splitLines cs := by
      rw [splitLines, if_pos (by decide)]
      nofun
    rw [behind]
    simp
  case neg =>
    refine ⟨splitLines cs, ?_, rfl⟩
    rw [splitLines, if_pos h]
    rintro cs rfl rfl
    exact both ⟨rfl, rfl⟩

theorem filter_splitLines_ending (h : ∀ c ∈ ending, isLineEnd c = true) :
    (splitLines (ending ++ cs)).filter (· ≠ []) = (splitLines cs).filter (· ≠ []) := by
  induction ending
  case nil => rfl
  case cons c ending hi =>
    obtain ⟨own, others⟩ := List.forall_mem_cons.mp h
    obtain ⟨lines, split, same⟩ := splitLines_end (ending ++ cs) own
    rw [List.cons_append, split, ← hi others, ← same]
    simp

theorem splitLines_append (h : Unbroken line) (split : splitLines cs = [] :: lines) :
    splitLines (line ++ cs) = line :: lines := by
  induction line
  case nil => exact split
  case cons c line hi =>
    obtain ⟨own, others⟩ := List.forall_mem_cons.mp h
    rw [List.cons_append, splitLines, if_neg (by simp [own]), hi others]
    rintro _ rfl
    cases own

theorem splitLines_unbroken (h : Unbroken (c :: line)) : splitLines (c :: line) = [c :: line] := by
  induction line generalizing c
  all_goals
    rw [splitLines, if_neg (by simp [h c List.mem_cons_self])]
    case x_1 =>
      rintro _ rfl
      cases h '\r' List.mem_cons_self
  case nil => rfl
  case cons d line hi => rw [hi fun c mem => h c <| List.mem_cons_of_mem _ mem]

theorem filter_splitLines_last (h : Unbroken line) :
    (splitLines line).filter (· ≠ []) = [line].filter (· ≠ []) := by
  cases line
  case nil => rfl
  case cons c line => rw [splitLines_unbroken h]

theorem filter_splitLines_line (h : Unbroken line) (run : IsRun isLineEnd ending) :
    (splitLines (line ++ (ending ++ cs))).filter (· ≠ []) =
      ([line] ++ splitLines cs).filter (· ≠ []) := by
  obtain ⟨c, ending, rfl⟩ := List.exists_cons_of_ne_nil run.some
  obtain ⟨own, others⟩ := List.forall_mem_cons.mp run.all
  obtain ⟨lines, split, same⟩ := splitLines_end (ending ++ cs) own
  rw [List.cons_append, splitLines_append h split, ← List.singleton_append, List.filter_append,
    List.filter_append, same, filter_splitLines_ending others]

end Lines

section Trimming

-- Blanks at both ends are all that is trimmed off a text that neither starts nor ends with one.
theorem trim_append (before : ∀ c ∈ left, isBlank c = true) (behind : ∀ c ∈ right, isBlank c = true)
    (some : cs ≠ []) (starts : ∀ c ∈ cs.head?, isBlank c = false)
    (stops : ∀ c ∈ cs.getLast?, isBlank c = false) : trim (left ++ (cs ++ right)) = cs := by
  have first : ∀ c ∈ (cs ++ right).head?, isBlank c = false := by
    obtain ⟨c, cs, rfl⟩ := List.exists_cons_of_ne_nil some
    exact starts
  have last : ∀ c ∈ cs.reverse.head?, isBlank c = false := by rwa [List.head?_reverse]
  have turned : ∀ c ∈ right.reverse, isBlank c = true := by simpa using behind
  rw [trim, (takeWhile_dropWhile before first).2, List.reverse_append,
    (takeWhile_dropWhile turned last).2, List.reverse_reverse]

end Trimming

section Records

theorem toLower_eq_iff {d : Char} (lower : ¬c.isUpper) :
    d.toLower = c ↔ d = c ∨ d = c.toUpper := by
  constructor
  case mp =>
    rintro rfl
    by_cases upper : d.isUpper = true
    case pos =>
      right
      rw [Char.toUpper_toLower_eq_toUpper, Char.toUpper_eq_of_not_isLower]
      exact Char.not_isLower_of_isUpper upper
    case neg =>
      left
      rw [Char.toLower_eq_of_not_isUpper upper]
  case mpr =>
    rintro (rfl | rfl)
    case inl => exact Char.toLower_eq_of_not_isUpper lower
    case inr => rw [Char.toLower_toUpper_eq_toLower, Char.toLower_eq_of_not_isUpper lower]

theorem map_toLower_eq_iff {letters : List Char} (kind : List Char)
    (lower : ∀ c ∈ letters, ¬c.isUpper) :
    kind.map Char.toLower = letters ↔
      List.Forall₂ (fun c d => d = c ∨ d = c.toUpper) letters kind := by
  induction letters generalizing kind
  case nil => simp
  case cons c letters hi =>
    obtain ⟨own, others⟩ := List.forall_mem_cons.mp lower
    cases kind
    case nil => simp
    case cons d kind =>
      rw [List.map_cons, List.cons.injEq, List.forall₂_cons, toLower_eq_iff own, hi kind others]

namespace Record

theorem Proper.formed (h : r.Proper) : r.Formed where
  line := h.line.toIsRun
  column := h.column.toIsRun
  endLine ds mem := (h.endLine ds mem).toIsRun
  endColumn := h.endColumn.toIsRun
  name := h.name
  kind := h.kind

theorem isStruct_iff {name : List Char} : r.isStruct name = true ↔ r.Declares name := by
  have kind := map_toLower_eq_iff r.kind (by simp : ∀ c ∈ "struct".toList, ¬c.isUpper)
  rw [isStruct, Bool.and_eq_true, Bool.or_eq_true, decide_eq_true_eq, decide_eq_true_eq, kind,
    List.isSuffixOf_iff_suffix]
  exact ⟨fun ⟨kind, name⟩ => ⟨kind, name⟩, fun ⟨kind, name⟩ => ⟨kind, name⟩⟩

instance (name : List Char) : Decidable (r.Declares name) :=
  decidable_of_iff _ isStruct_iff

theorem zeroBased_eq (h : Counts ds) : zeroBased ds = .ok ((decimalValue ds - 1 : Nat) : Int) := by
  have positive := h.positive
  rw [zeroBased, readNumber, if_pos h.short]
  simp only [Except.ok.injEq]
  omega

theorem position_eq (line : Nat) (h : Counts ds) :
    position line ds = .ok ⟨line, decimalValue ds - 1⟩ := by
  rw [position, zeroBased_eq h]
  rfl

theorem Proper.nullFree (h : r.Proper) : r.file.NullFree :=
  Path.nullFree_ofString <| by
    rw [String.toList_ofList]
    exact h.null

theorem Proper.location_eq (h : r.Proper) : r.location resolve root =
    ((resolve (root.join r.file)).map r.placeIn).mapError Fault.name := by
  have ends : Counts (r.endLine.getD r.line) := by
    cases same : r.endLine
    case none => exact h.line
    case some ds => exact h.endLine ds same
  have start := position_eq (decimalValue r.line - 1) h.column
  have stop := position_eq (decimalValue (r.endLine.getD r.line) - 1) h.endColumn
  have file : Path.ofString (String.ofList r.path) = r.file := rfl
  rw [location, zeroBased_eq h.line, zeroBased_eq ends, file]
  simp only [bind, Except.bind, start, stop]
  cases resolve (root.join r.file) <;> rfl

-- With no symbolic links, the one thing that a record cannot be placed for is a null byte in the root
-- that its path is seen from.
theorem Proper.location_unlinked (h : r.Proper) (absolute : root.isAbsolute = true) :
    r.location (Uri.unlinked cwd) root =
      if r.file.isAbsolute = true ∨ root.NullFree then .ok (r.place root)
      else .error (.name .nullByte) := by
  rw [h.location_eq]
  by_cases free : r.file.isAbsolute = true ∨ root.NullFree
  case pos =>
    rw [if_pos free, Uri.unlinked_eq ((Path.nullFree_join_iff h.nullFree).mpr free),
      Path.resolve_join_of_isAbsolute absolute]
    rfl
  case neg =>
    have null := mt (Path.nullFree_join_iff h.nullFree).mp free
    rw [if_neg free, Uri.unlinked_eq_error null]
    rfl

end Record

end Records

section Listing

theorem isBlank_of_isLineEnd (h : isLineEnd c = true) : isBlank c = true := by
  simp only [isLineEnd, Bool.or_eq_true, Bool.and_eq_true, decide_eq_true_eq, beq_iff_eq] at h
  simp only [isBlank, blankRanges, List.any_cons, List.any_nil, Bool.or_eq_true, Bool.and_eq_true,
    decide_eq_true_eq, Bool.false_eq_true, or_false]
  omega

theorem Margin.blanks (h : Margin cs) : ∀ c ∈ cs, isBlank c = true :=
  fun c mem => (Bool.and_eq_true_iff.mp <| h c mem).1

theorem Margin.unbroken (h : Margin cs) : Unbroken cs :=
  fun c mem => by simpa using (Bool.and_eq_true_iff.mp <| h c mem).2

theorem unbroken_of_word (h : IsRun (!isBlank ·) cs) : Unbroken cs := by
  intro c mem
  have word := h.all c mem
  refine Bool.eq_false_iff.mpr fun ends => ?_
  simp [isBlank_of_isLineEnd ends] at word

theorem unbroken_of_digits (h : IsRun isDigit cs) : Unbroken cs := by
  intro c mem
  refine Bool.eq_false_iff.mpr fun ends => ?_
  have other := isDigit_eq_false_of_isBlank <| isBlank_of_isLineEnd ends
  simp [h.all c mem] at other

theorem unbroken_append : Unbroken (left ++ right) ↔ Unbroken left ∧ Unbroken right :=
  List.forall_mem_append

theorem unbroken_cons : Unbroken (c :: cs) ↔ isLineEnd c = false ∧ Unbroken cs :=
  List.forall_mem_cons

theorem Record.Formed.unbroken (h : r.Formed) (apart : IsRun isSpacing gap)
    (apart' : IsRun isSpacing gap') : Unbroken (r.fields gap gap') := by
  have ends : Unbroken (endText r.endLine r.endColumn) := by
    cases same : r.endLine
    case none => exact unbroken_of_digits h.endColumn
    case some ds =>
      exact unbroken_append.mpr ⟨unbroken_of_digits <| h.endLine ds same,
        unbroken_cons.mpr ⟨by decide, unbroken_of_digits h.endColumn⟩⟩
  simp only [fields, unbroken_append, unbroken_cons]
  exact ⟨by decide, unbroken_of_digits h.line, by decide, unbroken_of_digits h.column, by decide, ends,
    Margin.unbroken apart.all, unbroken_of_word h.name, Margin.unbroken apart'.all,
    unbroken_of_word h.kind⟩

theorem Shows.unbroken (h : Shows shown line) : Unbroken line := by
  cases h
  case record r left right gap gap' proper before behind apart apart' =>
    simp only [unbroken_append]
    exact ⟨before.unbroken, ⟨proper.unbroken, proper.formed.unbroken apart apart'⟩, behind.unbroken⟩
  case other unbroken other => exact unbroken

theorem Record.kind_suffix (r : Record) (gap gap' : List Char) :
    r.kind <:+ r.path ++ r.fields gap gap' :=
  ⟨r.path ++ ':' :: (r.line ++ ':' :: (r.column ++ '-' :: (endText r.endLine r.endColumn ++
    (gap ++ (r.name ++ gap'))))), by simp [fields]⟩

theorem Shows.record? (h : Shows shown line) : record? (trim line) = shown := by
  cases h
  case record r left right gap gap' proper before behind apart apart' =>
    have blanks {cs : List Char} (apart : IsRun isSpacing cs) : IsRun isBlank cs :=
      ⟨apart.some, Margin.blanks apart.all⟩
    have reads : r.Reads (r.path ++ r.fields gap gap') :=
      ⟨proper.path, proper.formed, gap, gap', blanks apart, blanks apart', rfl⟩
    have starts : ∀ c ∈ (r.path ++ r.fields gap gap').head?, isBlank c = false := by
      obtain ⟨c, path, same⟩ := List.exists_cons_of_ne_nil proper.path
      have starts := proper.starts
      rw [same] at starts ⊢
      exact starts
    have stops : ∀ c ∈ (r.path ++ r.fields gap gap').getLast?, isBlank c = false := by
      obtain ⟨front, whole⟩ := r.kind_suffix gap gap'
      intro c mem
      rw [← whole, List.getLast?_append_of_ne_nil front proper.kind.some] at mem
      simpa using proper.kind.all c <| List.mem_of_getLast? mem
    rw [trim_append before.blanks behind.blanks (by simp [proper.path]) starts stops]
    exact reads.record? proper.colon
  case other unbroken other => exact record?_eq_none_iff.mpr other

variable {name : List Char}

theorem findIn_filter :
    findIn resolve root name (lines.filter (· ≠ [])) = findIn resolve root name lines := by
  induction lines
  case nil => rfl
  case cons line lines hi =>
    cases line
    case nil => exact hi
    case cons c line =>
      rw [List.filter_cons_of_pos (by simp), findIn, findIn, hi]

theorem Shows.findIn_cons (h : Shows shown line) : findIn resolve root name (line :: lines) =
    match shown.toList.find? (·.isStruct name) with
    | some r => (r.location resolve root).map some
    | none => findIn resolve root name lines := by
  rw [findIn, h.record?]
  cases shown
  case none => rfl
  case some r =>
    by_cases struct : r.isStruct name = true
    case pos => simp [struct]
    case neg => simp [struct]

theorem Printed.findIn_eq (h : Printed rs cs) : findIn resolve root name (splitLines cs) =
    match rs.find? (·.isStruct name) with
    | some r => (r.location resolve root).map some
    | none => .ok none := by
  induction h
  case nil => rfl
  case last shown line shows =>
    rw [← findIn_filter, filter_splitLines_last shows.unbroken, findIn_filter, shows.findIn_cons]
    rfl
  case line shown line ending rs cs shows ends behind hi =>
    rw [← findIn_filter, filter_splitLines_line shows.unbroken ends, findIn_filter]
    rw [List.singleton_append, shows.findIn_cons, hi, List.find?_append]
    cases shown.toList.find? (·.isStruct name)
    case none => rfl
    case some r => rfl

theorem Printed.proper (h : Printed rs cs) : ∀ r ∈ rs, r.Proper := by
  have own {shown : Option Record} {line : List Char} (shows : Shows shown line) :
      ∀ r ∈ shown.toList, r.Proper := by
    cases shows
    case record proper before behind apart apart' => simpa using proper
    case other => simp
  induction h
  case nil => nofun
  case last shows => exact own shows
  case line shows ends behind hi => exact List.forall_mem_append.mpr ⟨own shows, hi⟩

theorem Printed.findStruct_eq {output name : String} (h : Printed rs output.toList) :
    findStruct cwd root output name resolve =
      match rs.find? (·.Declares name.toList) with
      | some r => (r.location resolve root).map some
      | none => .ok none := by
  have same : (fun r : Record => decide (r.Declares name.toList)) = (·.isStruct name.toList) := by
    funext r
    rw [Bool.eq_iff_iff, decide_eq_true_eq, Record.isStruct_iff]
  rw [findStruct, h.findIn_eq, same]

end Listing

section Samples

-- The record of a struct in a file right below the root.
def sample : Record where
  path := "a.go".toList
  line := ['1']
  column := ['1']
  endLine := none
  endColumn := ['2']
  name := ['T']
  kind := "Struct".toList

theorem sample_proper : sample.Proper where
  path := by decide
  colon := by decide
  null := by decide
  unbroken := by decide
  starts := by
    rintro _ ⟨⟩
    decide
  line := by decide
  column := by decide
  endLine := nofun
  endColumn := by decide
  name := by decide
  kind := by decide

theorem printed_sample : Printed [sample] "# ops\n\ta.go:1:1-2  T Struct \r\n".toList := by
  have other : Shows none "# ops".toList :=
    .other (by decide) (record?_eq_none_iff.mp (by decide))
  have shows : Shows (some sample)
      (['\t'] ++ (sample.path ++ sample.fields [' ', ' '] [' '] ++ [' '])) :=
    .record sample_proper (by decide) (by decide) (by decide) (by decide)
  have feed : IsRun isLineEnd ['\n'] := by decide
  have both : IsRun isLineEnd ['\r', '\n'] := by decide
  exact .line other feed (.line shows both .nil)

end Samples

section Finding

-- The place of the first record of a struct of the name is found, in the file to which the system
-- resolves the path of the record as it is seen from the root. It may fail to resolve the path, which
-- then is the answer. With no symbolic links, only a null byte in the root makes it fail.
theorem findStruct_printed {output name : String} (absolute : root.isAbsolute = true)
    (printed : Printed rs output.toList) :
    (∀ resolve, findStruct cwd root output name resolve =
      match rs.find? (·.Declares name.toList) with
      | some r =>
        match resolve (root.join r.file) with
        | .ok path => .ok (some (r.placeIn path))
        | .error e => .error (.name e)
      | none => .ok none) ∧
    findStruct cwd root output name =
      match rs.find? (·.Declares name.toList) with
      | some r =>
        if r.file.isAbsolute = true ∨ root.NullFree then .ok (some (r.place root))
        else .error (.name .nullByte)
      | none => .ok none := by
  cases found : rs.find? (·.Declares name.toList)
  case none => exact ⟨fun resolve => by rw [printed.findStruct_eq, found],
    by rw [printed.findStruct_eq, found]⟩
  case some r =>
    have proper := printed.proper r <| List.mem_of_find?_eq_some found
    constructor
    · intro resolve
      rw [printed.findStruct_eq, found]
      simp only [proper.location_eq]
      cases resolve (root.join r.file) <;> rfl
    · rw [printed.findStruct_eq, found]
      simp only [proper.location_unlinked absolute]
      split <;> rfl

-- A symbolic link leads to another file, and a loop of links to none.
theorem findStruct_printed_sample :
    let found (resolve : Path → Except UriError Path) : Except Fault (Option Location) :=
      findStruct (.ofString "/") (.ofString "/ws") "# ops\n\ta.go:1:1-2  T Struct \r\n" "T" resolve
    let span : Span := ⟨⟨0, 0⟩, ⟨0, 1⟩⟩
    let loop : UriError := .unresolved "Symlink loop from '/ws/a.go'"
    found (Uri.unlinked (.ofString "/")) = .ok (some ⟨"file:///ws/a.go", span⟩) ∧
      found (fun _ => .ok (.ofString "/srv/b.go")) = .ok (some ⟨"file:///srv/b.go", span⟩) ∧
      found (fun _ => .error loop) = .error (.name loop) := by
  intro found span loop
  have absolute : (Path.ofString "/ws").isAbsolute = true := by decide
  have declared : [sample].find? (·.Declares "T".toList) = some sample := by decide
  have place : sample.place (.ofString "/ws") = ⟨"file:///ws/a.go", span⟩ := by decide
  have linked : sample.placeIn (.ofString "/srv/b.go") = ⟨"file:///srv/b.go", span⟩ := by decide
  obtain ⟨resolved, unlinked⟩ : _ ∧ found (Uri.unlinked (.ofString "/")) = _ :=
    findStruct_printed absolute printed_sample
  simp only [declared] at resolved unlinked
  rw [← linked, ← place]
  exact ⟨unlinked.trans <| if_pos (by decide), resolved _, resolved _⟩

-- A root with a null byte is no place from which a path can be seen.
theorem findStruct_null_root : ¬∀ (cwd root : Path) (rs : List Record) (output name : String),
    root.isAbsolute = true → Printed rs output.toList →
      findStruct cwd root output name =
        .ok ((rs.find? (·.Declares name.toList)).map (·.place root)) := by
  intro claim
  have found := claim (.ofString "/") (.ofString "/a\x00b") [sample] _ "T" (by decide) printed_sample
  have declared : [sample].find? (·.Declares "T".toList) = some sample := by decide
  have fails : ¬(sample.file.isAbsolute = true ∨ (Path.ofString "/a\x00b").NullFree) := by decide
  rw [printed_sample.findStruct_eq, declared] at found
  have absolute : (Path.ofString "/a\x00b").isAbsolute = true := by decide
  simp only [sample_proper.location_unlinked absolute, if_neg fails] at found
  cases found

end Finding

end FlowIndex.Tool
