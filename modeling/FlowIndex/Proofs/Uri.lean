import Mathlib.Data.List.TakeWhile
import FlowIndex.Proofs.Path
import FlowIndex.Proofs.Text.Utf8
import FlowIndex.Uri

namespace FlowIndex.Uri

variable {c : Char} {cs rest : List Char} {run : List UInt8} {b : UInt8} {p q cwd : Path}
  {uri : String}

section Quoting

theorem isUnreserved_hexDigit {n : Nat} (h : n < 16) : isUnreserved (hexDigit n) = true := by
  revert n
  decide

theorem hexValue?_hexDigit {n : Nat} (h : n < 16) : hexValue? (hexDigit n) = some n := by
  revert n
  decide

theorem hexPair?_hexDigit (b : UInt8) :
    hexPair? (hexDigit (b.toNat / 16)) (hexDigit (b.toNat % 16)) = some b := by
  have size := b.toNat_lt
  have high : hexValue? (hexDigit (b.toNat / 16)) = some (b.toNat / 16) :=
    hexValue?_hexDigit (by omega)
  have low : hexValue? (hexDigit (b.toNat % 16)) = some (b.toNat % 16) :=
    hexValue?_hexDigit (by omega)
  simp only [hexPair?, high, low, Nat.div_add_mod, Option.bind_eq_bind, Option.bind_some]
  simp

-- A text that was quoted can be read in any place of a URI but for its scheme.
theorem isUnreserved_of_mem_quote (mem : c ∈ quote cs) : isUnreserved c = true ∨ c = '%' := by
  obtain ⟨b, _, mem⟩ := List.mem_flatMap.mp mem
  have size := b.toNat_lt
  unfold quoteByte at mem
  extract_lets at mem
  split at mem
  case isTrue plain =>
    rw [List.mem_singleton.mp mem]
    exact .inl (Bool.and_eq_true_iff.mp plain).2
  case isFalse =>
    simp only [List.mem_cons, List.not_mem_nil, or_false] at mem
    obtain rfl | rfl | rfl := mem
    · exact .inr rfl
    · exact .inl <| isUnreserved_hexDigit (by omega)
    · exact .inl <| isUnreserved_hexDigit (by omega)

theorem ne_of_mem_quote {d : Char} (mem : c ∈ quote cs) (reserved : isUnreserved d = false)
    (other : d ≠ '%') : c ≠ d := by
  rintro rfl
  obtain unreserved | same := isUnreserved_of_mem_quote mem
  case inl => exact absurd (reserved.symm.trans unreserved) Bool.false_ne_true
  case inr => exact other same

theorem quote_cons (c : Char) (cs : List Char) :
    quote (c :: cs) = (String.utf8EncodeChar c).flatMap quoteByte ++ quote cs := by
  simp [quote, Text.utf8]

theorem quote_slash (cs : List Char) : quote ('/' :: cs) = '/' :: quote cs := by
  rw [quote_cons]
  rfl

theorem unquoteFrom_cons (h : c ≠ '%') : unquoteFrom run (c :: cs) =
    if c.toNat < 0x80 then unquoteFrom (UInt8.ofNat c.toNat :: run) cs
    else Text.decodeLossy run.reverse ++ c :: unquoteFrom [] cs := by
  rw [unquoteFrom]
  rintro _ _ _ rfl
  exact absurd rfl h

theorem unquoteFrom_quoteByte (b : UInt8) (run : List UInt8) (rest : List Char) :
    unquoteFrom run (quoteByte b ++ rest) = unquoteFrom (b :: run) rest := by
  unfold quoteByte
  extract_lets c
  split
  case isTrue plain =>
    simp only [Bool.and_eq_true, decide_eq_true_eq] at plain
    have number : c.toNat = b.toNat := by
      have valid : b.toNat.isValidChar := .inl (by omega)
      rw [show c = Char.ofNat b.toNat from rfl, Char.ofNat, dif_pos valid]
      rfl
    have other : c ≠ '%' := by
      intro same
      rw [same] at plain
      exact absurd plain.2 (by decide)
    rw [List.singleton_append, unquoteFrom_cons other, if_pos (by omega), number]
    simp
  case isFalse =>
    rw [List.cons_append, List.cons_append, List.singleton_append, unquoteFrom, hexPair?_hexDigit]

theorem unquoteFrom_quoteBytes (bs run : List UInt8) :
    unquoteFrom run (bs.flatMap quoteByte) = Text.decodeLossy (run.reverse ++ bs) := by
  induction bs generalizing run
  case nil => simp [unquoteFrom]
  case cons b bs hi =>
    rw [List.flatMap_cons, unquoteFrom_quoteByte, hi]
    simp

-- Quoting loses nothing.
theorem unquote_quote (cs : List Char) : unquote (quote cs) = cs := by
  rw [unquote, quote, unquoteFrom_quoteBytes, List.reverse_nil, List.nil_append,
    Text.decodeLossy_utf8]

end Quoting

section Splitting

-- A URI with nothing but a path in it, which starts with a slash.
theorem split_file (cs : List Char) :
    split ("file://" ++ String.ofList (quote ('/' :: cs))) = .ok ⟨"file", quote ('/' :: cs)⟩ := by
  let path := quote ('/' :: cs)
  let all := 'f' :: 'i' :: 'l' :: 'e' :: ':' :: '/' :: '/' :: path
  have text : ("file://" ++ String.ofList path).toList = all := by simp [all]
  have started : all.dropWhile (·.toNat ≤ 0x20) = all := rfl
  let plain (c : Char) : Bool := c ≠ '\t' && c ≠ '\r' && c ≠ '\n'
  have quoted : path.filter plain = path :=
    List.filter_eq_self.mpr fun c mem => by
      simp [plain, ne_of_mem_quote mem (d := '\t') rfl, ne_of_mem_quote mem (d := '\r') rfl,
        ne_of_mem_quote mem (d := '\n') rfl]
  have kept : all.filter plain = all := by
    show 'f' :: 'i' :: 'l' :: 'e' :: ':' :: '/' :: '/' :: path.filter plain = all
    rw [quoted]
  have scheme : splitScheme all = ("file", '/' :: '/' :: path) := rfl
  have authority : splitAuthority ('/' :: '/' :: path) = ([], path) := by
    simp only [path, quote_slash]
    rfl
  have whole : (path.takeWhile (· ≠ '#')).takeWhile (· ≠ '?') = path := by
    have query : path.takeWhile (· ≠ '?') = path :=
      List.takeWhile_eq_self_iff.mpr fun c mem => by simp [ne_of_mem_quote mem (d := '?') rfl]
    have fragment : path.takeWhile (· ≠ '#') = path :=
      List.takeWhile_eq_self_iff.mpr fun c mem => by simp [ne_of_mem_quote mem (d := '#') rfl]
    rw [fragment, query]
  rw [split, text, started, kept]
  simp only [scheme, authority, whole]
  rfl

end Splitting

section Paths

theorem exists_text (h : p.Resolved) : ∃ cs, p.toString.toList = '/' :: cs := by
  have text := Path.toList_toString (p := p) (by simp [h.absolute])
  rw [h.absolute] at text
  exact ⟨_, text⟩

theorem split_ofPath (h : p.Resolved) :
    split (ofPath p) = .ok ⟨"file", quote p.toString.toList⟩ := by
  obtain ⟨cs, text⟩ := exists_text h
  rw [ofPath, text]
  exact split_file cs

theorem decodedPath_ofPath (h : p.Resolved) : decodedPath (ofPath p) = .ok p.toString := by
  rw [decodedPath, split_ofPath h]
  show Except.ok (String.ofList (unquote (quote p.toString.toList))) = _
  rw [unquote_quote, String.ofList_toList]

theorem toPath_ofPath (h : p.Resolved) : toPath (ofPath p) = .ok p := by
  rw [toPath, split_ofPath h]
  show Except.ok (Path.ofString (String.ofList (unquote (quote p.toString.toList)))) = _
  rw [unquote_quote, String.ofList_toList, Path.ofString_toString h.wellFormed]

theorem ofPath_injective (hp : p.Resolved) (hq : q.Resolved) (same : ofPath p = ofPath q) :
    p = q := by
  have back := toPath_ofPath hp
  rw [same, toPath_ofPath hq] at back
  exact (Except.ok.inj back).symm

theorem accepted_ofPath (h : p.Resolved) : (split (ofPath p)).isOk = true := by
  rw [split_ofPath h]
  rfl

theorem fileName_ofPath (h : p.Resolved) :
    fileName (ofPath p) = .ok (if p.parts = [] then ofPath p else p.name) := by
  obtain ⟨cs, text⟩ := exists_text h
  have nonempty : p.toString ≠ "" := by
    intro empty
    rw [empty] at text
    cases text
  rw [fileName, decodedPath_ofPath h]
  show Except.ok (if (Path.ofString (if p.toString = "" then ofPath p else p.toString)).name = ""
    then ofPath p else _) = _
  rw [if_neg nonempty, Path.ofString_toString h.wellFormed]
  congr 1
  refine if_congr ?_ rfl rfl
  exact h.wellFormed.name_eq_empty_iff

end Paths

end FlowIndex.Uri
