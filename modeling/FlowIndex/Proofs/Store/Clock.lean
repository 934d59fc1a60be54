import FlowIndex.Double
import FlowIndex.Proofs.Store.Memory

namespace FlowIndex.MemoryStore

variable {m m' m'' : MemoryStore} {older : List MemoryStore}

-- No document was written later than the clock says.
def Clocked (m : MemoryStore) : Prop :=
  ∀ uri d, NameMap.get? uri m.documents = some d → d.written ≤ m.clock

-- `m'` comes after `m`: its documents are those of `m`, or were written later.
structure Follows (m' m : MemoryStore) : Prop where
  clock : m.clock ≤ m'.clock
  documents : ∀ uri d, NameMap.get? uri m'.documents = some d →
    NameMap.get? uri m.documents = some d ∨ m.clock < d.written

namespace Follows

theorem refl (m : MemoryStore) : m.Follows m :=
  ⟨Nat.le_refl m.clock, fun _ _ => .inl⟩

theorem trans (h : m''.Follows m') (h' : m'.Follows m) : m''.Follows m where
  clock := Nat.le_trans h'.clock h.clock
  documents uri d found := by
    obtain found | later := h.documents uri d found
    case inl => exact h'.documents uri d found
    case inr => exact .inr <| Nat.lt_of_le_of_lt h'.clock later

theorem edit (m : MemoryStore) (e : Edit) : (m.edit e).Follows m := by
  cases e
  case put uri text =>
    refine ⟨Nat.le_succ m.clock, fun uri' d found => ?_⟩
    simp only [MemoryStore.edit, put, NameMap.get?_set] at found
    split at found
    case isTrue =>
      cases found
      exact .inr <| Nat.lt_succ_self m.clock
    case isFalse => exact .inl found
  case delete uri =>
    refine ⟨Nat.le_refl m.clock, fun uri' d found => .inl ?_⟩
    simp only [MemoryStore.edit, delete, NameMap.get?_erase] at found
    split at found
    case isTrue => cases found
    case isFalse => exact found
  case setUnreadable => exact ⟨Nat.le_refl m.clock, fun _ _ => .inl⟩
  case setListing kind _ => cases kind <;> exact ⟨Nat.le_refl m.clock, fun _ _ => .inl⟩

end Follows

theorem Clocked.edit (clocked : m.Clocked) (e : Edit) : (m.edit e).Clocked := by
  cases e
  case put uri text =>
    intro uri' d found
    simp only [MemoryStore.edit, put, NameMap.get?_set] at found ⊢
    split at found
    case isTrue =>
      cases found
      exact Nat.le_refl _
    case isFalse => exact Nat.le_succ_of_le <| clocked uri' d found
  case delete uri =>
    intro uri' d found
    simp only [MemoryStore.edit, delete, NameMap.get?_erase] at found ⊢
    split at found
    case isTrue => cases found
    case isFalse => exact clocked uri' d found
  case setUnreadable => exact clocked
  case setListing kind _ => cases kind <;> exact clocked

-- Stores that came about one after the other, the latest one first.
structure Successive (stores : List MemoryStore) : Prop where
  follows : stores.Pairwise Follows
  clocked : ∀ m ∈ stores, m.Clocked

namespace Successive

theorem single (clocked : m.Clocked) : Successive [m] :=
  ⟨List.pairwise_singleton .., by simpa using clocked⟩

theorem cons (successive : Successive (m :: older)) (follows : m'.Follows m)
    (clocked : m'.Clocked) : Successive (m' :: m :: older) where
  follows := List.pairwise_cons.mpr <| by
    refine ⟨List.forall_mem_cons.mpr ⟨follows, fun m'' mem => ?_⟩, successive.follows⟩
    exact follows.trans <| List.rel_of_pairwise_cons successive.follows mem
  clocked := List.forall_mem_cons.mpr ⟨clocked, successive.clocked⟩

-- In all of them, times of change are at most that of the latest clock.
theorem written_le (successive : Successive (m :: older)) (mem : m' ∈ m :: older) {uri : String}
    {d : MemoryDocument} (found : NameMap.get? uri m'.documents = some d) :
    d.written ≤ m.clock := by
  have own := successive.clocked m' mem uri d found
  obtain rfl | mem := List.mem_cons.mp mem
  case inl => exact own
  case inr =>
    exact Nat.le_trans own <| (List.rel_of_pairwise_cons successive.follows mem).clock

end Successive

end FlowIndex.MemoryStore

namespace FlowIndex.Double

theorem ofInt_natCast {n : Nat} (small : n < Nat.pow 2 precision) : ofInt n = n := by
  refine congrArg Int.ofNat <| ofNat_of_bitCount_le ?_
  unfold bitCount
  split
  case isTrue => exact Nat.zero_le _
  case isFalse positive => exact (Nat.log2_lt positive).mpr small

end FlowIndex.Double
