import FlowIndex.Store.Memory

namespace FlowIndex

namespace NameMap

variable {α : Type} {m : List (String × α)} {s t : String} {a : α}

-- The names increase from each entry of a map to the next.
def Increasing (m : List (String × α)) : Prop :=
  m.Pairwise (·.1 < ·.1)

theorem get?_nil : get? s ([] : List (String × α)) = none :=
  rfl

theorem get?_cons {e : String × α} : get? s (e :: m) = if s = e.1 then some e.2 else get? s m := by
  obtain ⟨t, b⟩ := e
  by_cases h : s = t
  case pos => simp [get?, h]
  case neg => simp [get?, List.lookup_cons, beq_eq_false_iff_ne.mpr h, h]

theorem mem_of_get? (h : get? s m = some a) : (s, a) ∈ m := by
  induction m
  case nil => cases h
  case cons e m hi =>
    rw [get?_cons] at h
    split at h
    case isTrue same =>
      cases h
      rw [same]
      exact List.mem_cons_self
    case isFalse => exact List.mem_cons_of_mem _ <| hi h

theorem get?_set : get? t (set s a m) = if t = s then some a else get? t m := by
  induction m
  case nil => simp [set, get?_cons]
  case cons e m hi =>
    obtain ⟨u, b⟩ := e
    unfold set
    split
    case isTrue => simp [get?_cons]
    case isFalse =>
      split
      case isTrue same =>
        subst same
        by_cases ht : t = s <;> simp [get?_cons, ht]
      case isFalse other =>
        by_cases ht : t = u
        case pos =>
          have : u ≠ s := fun h => other h.symm
          simp [get?_cons, ht, this]
        case neg => simp [get?_cons, ht, hi]

theorem get?_erase : get? t (erase s m) = if t = s then none else get? t m := by
  induction m
  case nil => simp [erase, get?_nil]
  case cons e m hi =>
    obtain ⟨u, b⟩ := e
    have step : erase s ((u, b) :: m) = if u = s then erase s m else (u, b) :: erase s m := by
      by_cases h : u = s <;> simp [erase, h]
    rw [step]
    by_cases hu : u = s
    case pos =>
      rw [if_pos hu, hi]
      by_cases ht : t = s <;> simp [get?_cons, ht, hu]
    case neg =>
      rw [if_neg hu, get?_cons, get?_cons, hi]
      by_cases ht : t = u <;> simp [ht, hu]

theorem mem_of_mem_set {e : String × α} (h : e ∈ set s a m) : e = (s, a) ∨ e ∈ m := by
  induction m
  case nil => exact .inl <| List.mem_singleton.mp h
  case cons d m hi =>
    unfold set at h
    split at h
    · exact List.mem_cons.mp h
    · split at h
      · exact List.mem_cons.mp h |>.imp_right <| List.mem_cons_of_mem _
      · obtain rfl | h := List.mem_cons.mp h
        · exact .inr List.mem_cons_self
        · exact hi h |>.imp_right <| List.mem_cons_of_mem _

theorem Increasing.set (h : Increasing m) : Increasing (set s a m) := by
  induction m
  case nil => exact List.pairwise_singleton ..
  case cons e m hi =>
    obtain ⟨above, rest⟩ := List.pairwise_cons.mp h
    obtain ⟨t, b⟩ := e
    unfold NameMap.set
    split
    case isTrue less =>
      refine List.pairwise_cons.mpr ⟨fun d mem => ?_, h⟩
      obtain rfl | mem := List.mem_cons.mp mem
      · exact less
      · exact String.lt_trans less (above d mem)
    case isFalse notLess =>
      split
      case isTrue same =>
        subst same
        exact List.pairwise_cons.mpr ⟨above, rest⟩
      case isFalse other =>
        have greater : t < s := by
          have le : t ≤ s := String.not_lt.mp notLess
          refine Decidable.byContradiction fun h => other ?_
          exact String.le_antisymm (String.not_lt.mp h) le
        refine List.pairwise_cons.mpr ⟨fun d mem => ?_, hi rest⟩
        obtain rfl | mem := mem_of_mem_set mem
        · exact greater
        · exact above d mem

theorem Increasing.erase (h : Increasing m) : Increasing (erase s m) :=
  h.filter _

theorem mem_names_iff : s ∈ m.map (·.1) ↔ (get? s m).isSome = true := by
  induction m
  case nil => simp [get?_nil]
  case cons e m hi =>
    rw [List.map_cons, List.mem_cons, hi, get?_cons]
    by_cases h : s = e.1 <;> simp [h]

end NameMap

namespace MemoryStore

-- What can be done to a store from outside.
inductive Edit
  | put (uri text : String)
  | delete (uri : String)
  | setUnreadable (uri : String) (value : Bool)
  | setListing (kind : DocumentKind) (fault : Option Failure)

def edit (m : MemoryStore) : Edit → MemoryStore
  | .put uri text => m.put uri text
  | .delete uri => m.delete uri
  | .setUnreadable uri value => m.setUnreadable uri value
  | .setListing kind fault => m.setListing kind fault

def ofEdits (es : List Edit) : MemoryStore :=
  es.foldl edit {}

theorem edit_increasing {m : MemoryStore} (h : NameMap.Increasing m.documents) (e : Edit) :
    NameMap.Increasing (m.edit e).documents := by
  cases e
  case put => exact h.set
  case delete => exact h.erase
  case setUnreadable => exact h
  case setListing kind _ => cases kind <;> exact h

theorem ofEdits_increasing {es : List Edit} : NameMap.Increasing (ofEdits es).documents := by
  suffices ∀ m : MemoryStore, NameMap.Increasing m.documents →
      NameMap.Increasing (es.foldl edit m).documents from this {} .nil
  induction es
  case nil => exact fun _ h => h
  case cons e es hi => exact fun _ h => hi _ <| edit_increasing h e

end MemoryStore

-- What a scan can see of a store, but for the times of change: the texts of the documents, and the
-- failures.
@[ext]
structure Contents where
  text? : String → Option String
  unreadable : String → Bool
  listingFault? : DocumentKind → Option Failure

namespace Contents

open MemoryStore

def empty : Contents where
  text? _ := none
  unreadable _ := false
  listingFault? _ := none

-- Edits of contents. Nothing here is in any order.
def edit (k : Contents) : Edit → Contents
  | .put uri text => { k with text? := fun uri' => if uri' = uri then some text else k.text? uri' }
  | .delete uri => { k with text? := fun uri' => if uri' = uri then none else k.text? uri' }
  | .setUnreadable uri value =>
    { k with unreadable := fun uri' => if uri' = uri then value else k.unreadable uri' }
  | .setListing kind fault =>
    { k with listingFault? := fun kind' => if kind' = kind then fault else k.listingFault? kind' }

def ofEdits (es : List Edit) : Contents :=
  es.foldl edit empty

-- The documents of a kind, in the order of the code points of their names.
structure Lists (k : Contents) (kind : DocumentKind) (uris : List String) : Prop where
  increasing : uris.Pairwise (· < ·)
  mem : ∀ uri, uri ∈ uris ↔ (k.text? uri).isSome = true ∧ kindOf uri = some kind

-- There is only one such list.
theorem Lists.unique {k : Contents} {kind : DocumentKind} {us vs : List String}
    (hu : k.Lists kind us) (hv : k.Lists kind vs) : us = vs := by
  have nodup {uris : List String} (h : uris.Pairwise (· < ·)) : uris.Nodup :=
    h.imp fun {a b} (less : a < b) (same : a = b) => String.lt_irrefl b (same ▸ less)
  have perm : us.Perm vs :=
    List.perm_iff_count.mpr fun uri => by
      rw [(nodup hu.increasing).count, (nodup hv.increasing).count]
      simp only [hu.mem, hv.mem]
  refine perm.eq_of_pairwise (fun uri uri' _ _ less greater => ?_) hu.increasing hv.increasing
  exact absurd greater (String.lt_asymm less)

end Contents

namespace MemoryStore

variable {m : MemoryStore}

def contents (m : MemoryStore) : Contents where
  text? uri := (NameMap.get? uri m.documents).map (·.text)
  unreadable uri := m.unreadable.contains uri
  listingFault?
    | .flow => m.flowListing
    | .host => m.hostListing

theorem contents_edit (e : Edit) : (m.edit e).contents = m.contents.edit e := by
  cases e
  case put uri text =>
    ext1 <;> simp only [contents, edit, put, Contents.edit, NameMap.get?_set]
    funext uri'
    split <;> rfl
  case delete uri =>
    ext1 <;> simp only [contents, edit, delete, Contents.edit, NameMap.get?_erase]
    funext uri'
    split <;> rfl
  case setUnreadable uri value =>
    ext1 <;> simp only [contents, edit, setUnreadable, Contents.edit]
    funext uri'
    by_cases same : uri' = uri
    all_goals cases value
    all_goals simp [same, NameSet.mem_insert]
  case setListing kind fault =>
    ext1 <;> cases kind <;> simp only [contents, edit, setListing, Contents.edit]
    all_goals funext kind'
    all_goals cases kind' <;> rfl

theorem contents_ofEdits {es : List Edit} : (ofEdits es).contents = .ofEdits es := by
  have start : ({} : MemoryStore).contents = .empty := by
    ext1
    · rfl
    · rfl
    · funext kind
      cases kind <;> rfl
  suffices ∀ m : MemoryStore, (es.foldl edit m).contents = es.foldl Contents.edit m.contents by
    rw [ofEdits, this, start, Contents.ofEdits]
  clear start
  induction es
  case nil => exact fun _ => rfl
  case cons e es hi =>
    intro m
    rw [List.foldl_cons, hi, contents_edit, List.foldl_cons]

theorem contents_text?_isSome {uri : String} :
    (m.contents.text? uri).isSome = true ↔ uri ∈ m.documents.map (·.1) := by
  rw [NameMap.mem_names_iff, contents, Option.isSome_map]

theorem lists_contents (h : NameMap.Increasing m.documents) (kind : DocumentKind) :
    m.contents.Lists kind ((m.documents.map (·.1)).filter fun uri => kindOf uri = some kind) where
  increasing := (List.pairwise_map.mpr h).filter _
  mem uri := by simp only [List.mem_filter, contents_text?_isSome, decide_eq_true_eq]

end MemoryStore

end FlowIndex
