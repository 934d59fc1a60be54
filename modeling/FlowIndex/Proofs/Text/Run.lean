import Mathlib.Data.List.TakeDrop

namespace FlowIndex.Text

variable {p : Char → Bool} {cs ds rest : List Char}

theorem head_dropWhile : ∀ c ∈ (cs.dropWhile p).head?, p c = false := by
  intro c mem
  have stop := List.head?_dropWhile_not p cs
  rw [Option.mem_def.mp mem] at stop
  simpa using stop

-- A run is cut off in front of any text that it cannot go on into.
theorem takeWhile_dropWhile (all : ∀ c ∈ cs, p c = true) (stops : ∀ c ∈ rest.head?, p c = false) :
    (cs ++ rest).takeWhile p = cs ∧ (cs ++ rest).dropWhile p = rest := by
  have none : rest.takeWhile p = [] ∧ rest.dropWhile p = rest := by
    cases rest
    case nil => exact ⟨rfl, rfl⟩
    case cons c cs =>
      have stop := stops c rfl
      simp [stop]
  rw [List.takeWhile_append_of_pos all, List.dropWhile_append_of_pos all, none.1, none.2]
  exact ⟨List.append_nil cs, rfl⟩

theorem span_eq_iff : cs.span p = (ds, rest) ↔
    cs = ds ++ rest ∧ (∀ c ∈ ds, p c = true) ∧ ∀ c ∈ rest.head?, p c = false := by
  rw [List.span_eq_takeWhile_dropWhile, Prod.mk.injEq]
  constructor
  case mp =>
    rintro ⟨rfl, rfl⟩
    exact ⟨List.takeWhile_append_dropWhile.symm, List.all_eq_true.mp List.all_takeWhile,
      head_dropWhile⟩
  case mpr =>
    rintro ⟨rfl, all, stops⟩
    exact takeWhile_dropWhile all stops

end FlowIndex.Text
