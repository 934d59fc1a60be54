import FlowIndex.Text.Utf8

namespace FlowIndex.Text

theorem toNat_ofNat {n : Nat} (h : n < 256) : (UInt8.ofNat n).toNat = n :=
  UInt8.toNat_ofNat_of_lt h

theorem no_surrogate (c : Char) : c.toNat < 0xd800 ∨ 0xdfff < c.toNat ∧ c.toNat < 0x110000 :=
  c.valid

section Continuation

variable {value length owed bits : Nat} {range : Nat × Nat} {bs : List UInt8}

theorem continueChar_cons (small : bits < 64)
    (within : range.1 ≤ bits + 0x80 ∧ bits + 0x80 ≤ range.2) :
    continueChar value length range (owed + 1) (UInt8.ofNat (bits + 0x80) :: bs) =
      continueChar (value * 64 + bits) (length + 1) (0x80, 0xbf) owed bs := by
  have byte : (UInt8.ofNat (bits + 0x80)).toNat = bits + 0x80 := toNat_ofNat (by omega)
  simp only [continueChar, byte, within, decide_true, Bool.and_self, if_true, Nat.add_sub_cancel]

theorem continueChar_cons_later (small : bits < 64) :
    continueChar value length (0x80, 0xbf) (owed + 1) (UInt8.ofNat (bits + 0x80) :: bs) =
      continueChar (value * 64 + bits) (length + 1) (0x80, 0xbf) owed bs :=
  continueChar_cons small ⟨by omega, by omega⟩

theorem continueChar_done {c : Char} (value_eq : value = c.toNat) :
    continueChar value length range 0 bs = .char c length := by
  rw [continueChar, value_eq, Char.ofNat_toNat]

end Continuation

theorem head_utf8EncodeChar (c : Char) (rest : List UInt8) :
    ∃ b bs, String.utf8EncodeChar c = b :: bs ∧ head b (bs ++ rest) = .char c (bs.length + 1) := by
  have valid := no_surrogate c
  rw [Char.toNat] at valid
  fun_cases String.utf8EncodeChar c
  case case1 v one =>
    refine ⟨_, _, rfl, ?_⟩
    have lead : (UInt8.ofNat v).toNat = v := toNat_ofNat (by omega)
    rw [head, lead, if_pos (by omega)]
    exact congrArg (Head.char · 1) (Char.ofNat_toNat c)
  case case2 v one two =>
    refine ⟨_, _, rfl, ?_⟩
    have lead : (UInt8.ofNat (v / 64 % 0x20 + 0xc0)).toNat = v / 64 % 0x20 + 0xc0 :=
      toNat_ofNat (by omega)
    have second : (secondRange (v / 64 % 0x20 + 0xc0)).1 ≤ v % 0x40 + 0x80 ∧
        v % 0x40 + 0x80 ≤ (secondRange (v / 64 % 0x20 + 0xc0)).2 := by
      unfold secondRange
      grind
    rw [head, lead, if_neg (by omega), if_pos (by simp; omega)]
    rw [List.cons_append, continueChar_cons (by omega) second]
    exact continueChar_done (by rw [Char.toNat]; omega)
  case case3 v one two three =>
    refine ⟨_, _, rfl, ?_⟩
    have lead : (UInt8.ofNat (v / 4096 % 0x10 + 0xe0)).toNat = v / 4096 % 0x10 + 0xe0 :=
      toNat_ofNat (by omega)
    have second : (secondRange (v / 4096 % 0x10 + 0xe0)).1 ≤ v / 64 % 0x40 + 0x80 ∧
        v / 64 % 0x40 + 0x80 ≤ (secondRange (v / 4096 % 0x10 + 0xe0)).2 := by
      unfold secondRange
      grind
    rw [head, lead, if_neg (by omega), if_neg (by simp), if_pos (by simp; omega)]
    rw [List.cons_append, continueChar_cons (by omega) second]
    rw [List.cons_append, continueChar_cons_later (by omega)]
    exact continueChar_done (by rw [Char.toNat]; omega)
  case case4 v one two three =>
    refine ⟨_, _, rfl, ?_⟩
    have lead : (UInt8.ofNat (v / 262144 % 8 + 0xf0)).toNat = v / 262144 % 8 + 0xf0 :=
      toNat_ofNat (by omega)
    have second : (secondRange (v / 262144 % 8 + 0xf0)).1 ≤ v / 4096 % 0x40 + 0x80 ∧
        v / 4096 % 0x40 + 0x80 ≤ (secondRange (v / 262144 % 8 + 0xf0)).2 := by
      unfold secondRange
      grind
    rw [head, lead, if_neg (by omega), if_neg (by simp), if_neg (by simp), if_pos (by simp; omega)]
    rw [List.cons_append, continueChar_cons (by omega) second]
    rw [List.cons_append, continueChar_cons_later (by omega)]
    rw [List.cons_append, continueChar_cons_later (by omega)]
    exact continueChar_done (by rw [Char.toNat]; omega)

theorem decodeLossyFrom_append (bs rest : List UInt8) :
    decodeLossyFrom bs.length (bs ++ rest) = decodeLossyFrom 0 rest := by
  induction bs
  case nil => rfl
  case cons b bs hi => exact hi

theorem decodeLossy_utf8 (cs : List Char) : decodeLossy (utf8 cs) = cs := by
  induction cs
  case nil => rfl
  case cons c cs hi =>
    obtain ⟨b, bs, bytes, head⟩ := head_utf8EncodeChar c (utf8 cs)
    have split : utf8 (c :: cs) = b :: (bs ++ utf8 cs) := by
      rw [utf8, List.flatMap_cons, bytes]
      rfl
    rw [decodeLossy, split, decodeLossyFrom, head]
    exact congrArg (c :: ·) <| (decodeLossyFrom_append bs (utf8 cs)).trans hi

end FlowIndex.Text
