import FlowIndex.Index.Scan
import FlowIndex.Proofs.Flow.Declared
import FlowIndex.Proofs.Flow.Used

namespace FlowIndex.Flow

variable {items : List Item}

namespace Document

theorem operators_render (uri : String) (valid : ∀ item ∈ items, item.Valid) :
    ∃ operators, (ofText uri (render items)).operators = .ok operators ∧
      operators.map (·.declared) = items.flatMap (·.declared) := by
  have entries : List.Forall₂ Entry.Declares (ofText uri (render items)).entries
      (items.flatMap (·.declared)) := by
    have read := entries_items (o := 0) valid [] nofun
    rw [entries, Flow.entries, Flow.registrations, ofText, tokens_render valid,
      blocks_items valid <| .inl rfl]
    exact read
  exact operators_of_declares entries

theorem fragments_render (uri : String) (valid : ∀ item ∈ items, item.Valid) :
    (ofText uri (render items)).fragments.map (·.name) = items.filterMap (·.fragment?) := by
  rw [fragments, fragmentBlocks, Flow.fragmentBlocks, ofText, tokens_render valid,
    blocks_items valid <| .inr rfl, List.map_map]
  exact names_blocksOf 0 items

theorem expansions_render (uri : String) (valid : ∀ item ∈ items, item.Valid) :
    (ofText uri (render items)).expansions.map (·.name) =
      items.flatMap fun item => item.statements.filterMap (·.expansion?) := by
  rw [← expansions_search.document valid (o := 0), expansions, ofText, tokens_render valid,
    List.map_map]
  rfl

theorem calls_render (uri : String) (valid : ∀ item ∈ items, item.Valid) :
    (ofText uri (render items)).calls.map (·.name) =
      items.flatMap fun item => item.statements.filterMap (·.call?) := by
  have outside : ∀ t ∈ calledIn (tokensFrom 0 (items.flatMap (·.lexemes))),
      (!isKeyword t.value && !(blocksOf "REGISTER" 0 items).any (·.contains t.start)) =
        !isKeyword t.value := by
    intro t called
    have ⟨mem, kind⟩ := mem_of_mem_calledIn called
    cases free : isKeyword t.value
    case true => rfl
    case false =>
      rw [Bool.not_false, Bool.true_and, Bool.not_eq_true', List.any_eq_false]
      intro b hb inside
      rw [isKeyword_of_contains valid mem kind hb inside] at free
      cases free
  rw [← calls_search.document valid (o := 0), calls, Document.registrations, Flow.registrations,
    ofText, tokens_render valid, blocks_items valid <| .inl rfl, List.map_map, List.filter_map]
  exact congrArg _ <| List.filter_congr outside

end Document

-- Reading what was printed gives back what each item declares and uses, in the order of the text.
theorem render_readBack (uri : String) (valid : ∀ item ∈ items, item.Valid) :
    (∃ operators fragments,
      Scan.declarations {} uri (render items) = .ok (operators, fragments) ∧
        operators.map (·.declared) = items.flatMap (·.declared) ∧
        fragments.map (·.name) = items.filterMap (·.fragment?)) ∧
      (Document.ofText uri (render items)).expansions.map (·.name) =
        items.flatMap (fun item => item.statements.filterMap (·.expansion?)) ∧
      (Document.ofText uri (render items)).calls.map (·.name) =
        items.flatMap (fun item => item.statements.filterMap (·.call?)) := by
  obtain ⟨operators, ok, declared⟩ := Document.operators_render uri valid
  refine ⟨⟨operators, (Document.ofText uri (render items)).fragments, ?_, declared,
    Document.fragments_render uri valid⟩, Document.expansions_render uri valid,
    Document.calls_render uri valid⟩
  rw [Scan.declarations, ok]
  rfl

-- Names that look like blocks, comments, calls and ends of strings.
def lookalikes : List Item :=
  [.registration "pkg\"/*" [
      { path := "a//b.go", struct := "S\x7d", name := none, sequence := 7 },
      { path := "\n", struct := "OPERATOR(", name := some "REGISTER(\"q\") \x7b", sequence := 0 }],
    .fragment "FRAGMENT(\"f\") \x7b" [.call "fetch", .expansion "\x7d\n\x7b"],
    .start "" [.expansion "UNFOLD(\"\\", .call "_x1"]]

theorem render_readBack_lookalikes :
    (∀ item ∈ lookalikes, item.Valid) ∧
    (∃ operators fragments,
      Scan.declarations {} "flow" (render lookalikes) = .ok (operators, fragments) ∧
        operators.map (·.declared) = [⟨"S\x7d", "S\x7d", "pkg\"/*", "a//b.go", 7⟩,
          ⟨"REGISTER(\"q\") \x7b", "OPERATOR(", "pkg\"/*", "\n", 0⟩] ∧
        fragments.map (·.name) = ["FRAGMENT(\"f\") \x7b"]) ∧
      (Document.ofText "flow" (render lookalikes)).expansions.map (·.name) =
        ["\x7d\n\x7b", "UNFOLD(\"\\"] ∧
      (Document.ofText "flow" (render lookalikes)).calls.map (·.name) = ["fetch", "_x1"] := by
  have valid : ∀ item ∈ lookalikes, item.Valid := by decide +kernel
  exact ⟨valid, render_readBack "flow" valid⟩

end FlowIndex.Flow
