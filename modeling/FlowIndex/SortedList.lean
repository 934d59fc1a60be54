namespace FlowIndex

namespace NameSet

-- Names in increasing order without duplicates, so that equal sets are equal lists.
def insert (s : String) : List String → List String
  | [] => [s]
  | t :: ts => if s < t then s :: t :: ts else if s = t then t :: ts else t :: insert s ts

def ofList (ss : List String) : List String :=
  ss.foldr insert []

def union (ss ts : List String) : List String :=
  ss.foldr insert ts

theorem mem_insert {s t : String} {ts : List String} : t ∈ insert s ts ↔ t = s ∨ t ∈ ts := by
  induction ts with
  | nil => simp [insert]
  | cons u us ih => simp only [insert]; grind

theorem mem_union {t : String} {ss ts : List String} : t ∈ union ss ts ↔ t ∈ ss ∨ t ∈ ts := by
  induction ss with
  | nil => simp [union]
  | cons s ss ih =>
    show t ∈ insert s (union ss ts) ↔ _
    rw [mem_insert, ih, List.mem_cons, or_assoc]

theorem mem_ofList {t : String} {ss : List String} : t ∈ ofList ss ↔ t ∈ ss := by
  show t ∈ union ss [] ↔ t ∈ ss
  simp [mem_union]

end NameSet

namespace NameMap

variable {α : Type}

def set (s : String) (a : α) : List (String × α) → List (String × α)
  | [] => [(s, a)]
  | (t, b) :: ts =>
    if s < t then (s, a) :: (t, b) :: ts else if s = t then (s, a) :: ts else (t, b) :: set s a ts

def erase (s : String) (m : List (String × α)) : List (String × α) :=
  m.filter (·.1 ≠ s)

def get? (s : String) (m : List (String × α)) : Option α :=
  m.lookup s

end NameMap

end FlowIndex
