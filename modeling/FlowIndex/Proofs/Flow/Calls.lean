import FlowIndex.Proofs.Flow.Extent

namespace FlowIndex.Flow.Document

variable {d : Document} {ts : List Token} {t : Token}

-- The names of calls that are none of the tokens of a registration block.
def callsOutside (d : Document) : List Token :=
  ((d.tokens.zip d.tokens.tail).filter fun (t, next) =>
      t.kind = .ident && !isKeyword t.value && next.isPunct '(' &&
        !d.registrations.any (t ∈ ·.tokens d.tokens)).map (·.1)

-- Whether a token stands directly behind the brace that closes a registration block.
def touches (d : Document) (t : Token) : Bool :=
  d.registrations.any fun b => b.closed && t.start = b.stop

def callOf (d : Document) (t : Token) : Call :=
  { name := t.value, span := d.tokenSpan t }

theorem calledIn_eq (ts : List Token) : calledIn ts =
    ((ts.zip ts.tail).filter fun (t, next) => t.kind = .ident && next.isPunct '(').map (·.1) := by
  induction ts
  case nil => rfl
  case cons t ts hi =>
    cases ts
    case nil => rfl
    case cons next ts =>
      rw [calledIn, hi]
      by_cases called : (t.kind = .ident && next.isPunct '(') = true
      case pos => simp [called]
      case neg => simp [called]

-- An offset at which a token starts lies in a registration block if the token is one of a block's,
-- or stands directly behind one.
theorem inRegistration_eq (laid : Laid d.length d.tokens) (mem : t ∈ d.tokens) :
    d.inRegistration t.start = (d.registrations.any (t ∈ ·.tokens d.tokens) || d.touches t) := by
  apply Bool.eq_iff_iff.mpr
  simp only [inRegistration, touches, Bool.or_eq_true, List.any_eq_true, Bool.and_eq_true,
    decide_eq_true_eq]
  constructor
  case mp =>
    rintro ⟨b, hb, inside⟩
    obtain own | behind := (liesIn_of_mem_registrations hb).contains_iff laid mem |>.mp inside
    case inl => exact .inl ⟨b, hb, own⟩
    case inr => exact .inr ⟨b, hb, behind⟩
  case mpr =>
    have contains {b : Block} (hb : b ∈ d.registrations) :=
      (liesIn_of_mem_registrations hb).contains_iff laid mem
    rintro (⟨b, hb, own⟩ | ⟨b, hb, behind⟩)
    case inl => exact ⟨b, hb, contains hb |>.mpr <| .inl own⟩
    case inr => exact ⟨b, hb, contains hb |>.mpr <| .inr behind⟩

-- The calls of a text are those outside the registration blocks, but for those that touch one. What
-- the tokens of a block are is said first.
theorem calls_eq (uri text : String) :
    let d := ofText uri text
    (∀ b ∈ d.registrations, ∃ pre post, d.tokens = pre ++ (b.tokens d.tokens ++ post) ∧
        b.keyword = "REGISTER" ∧ b.Lies d.length (b.tokens d.tokens) post) ∧
      d.calls = (d.callsOutside.filter (!d.touches ·)).map d.callOf := by
  intro d
  have laid : Laid d.length d.tokens := laid_ofText uri text
  constructor
  case left =>
    intro b mem
    obtain ⟨pre, run, post, tokens, lies⟩ := liesIn_of_mem_registrations mem
    have own : b.tokens d.tokens = run := by
      rw [tokens] at laid ⊢
      exact lies.tokens_eq laid
    rw [own]
    exact ⟨pre, post, tokens, keyword_of_mem_registrations mem, lies⟩
  case right =>
    have outside : ∀ p ∈ d.tokens.zip d.tokens.tail,
        (!isKeyword p.1.value && !d.registrations.any (·.contains p.1.start) &&
            (p.1.kind = .ident && p.2.isPunct '(')) =
          (!d.touches p.1 && (p.1.kind = .ident && !isKeyword p.1.value && p.2.isPunct '(' &&
            !d.registrations.any (p.1 ∈ ·.tokens d.tokens))) := by
      intro p mem
      have inside := inRegistration_eq laid (List.of_mem_zip mem).1
      rw [inRegistration] at inside
      rw [inside, Bool.not_or]
      ac_rfl
    rw [calls, calledIn_eq, callsOutside, List.filter_map, List.filter_map, List.filter_filter,
      List.filter_filter]
    exact congrArg _ <| congrArg _ <| List.filter_congr outside

-- A call directly behind a closing brace is lost, and is found again on the next line.
theorem calls_lost_behind_brace :
    let d := ofText "a.gorch" "REGISTER(\"p\")\x7b\x7dfoo()"
    let apart := ofText "a.gorch" "REGISTER(\"p\")\x7b\x7d\nfoo()"
    d.calls = [] ∧ d.callsOutside.map (·.value) = ["foo"] ∧ apart.calls.map (·.name) = ["foo"] := by
  decide +kernel

end FlowIndex.Flow.Document
