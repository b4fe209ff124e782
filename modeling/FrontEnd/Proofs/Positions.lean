import FrontEnd.Proofs.Pulls

namespace FrontEnd.Lexer

/-- The places that the streams of a lexer over an input can come to: the beginning, and from any
of them on what any of the rules matches there. -/
inductive Visits (l : Lexer) (input : String) : Cursor → Prop where
  | start : Visits l input (.ofInput input)
  | move {k r n} (h : Visits l input k) (hr : r ∈ l.ignored ∨ r ∈ l.rules)
      (hn : r.lengthAt? k = some n) : Visits l input (k.advance n)

section Visits

variable {l : Lexer} {input : String} {k k' : Cursor}

theorem Visits.sound (h : Visits l input k) : k.Sound input := by
  induction h with
  | start => exact Cursor.sound_ofInput input
  | move _ _ _ ih => exact ih.advance _

theorem Visits.passes {xs : List Lexeme} (h : Visits l input k) (hpass : Passes l.ignored k xs k') :
    Visits l input k' := by
  induction hpass with
  | rest _ => exact h
  | pass hfirst _ ih => exact ih (h.move (.inl hfirst.spec.1) hfirst.spec.2.1)

theorem Visits.comes {s : Stream} {o : Outcome} (h : Visits l input k) (hl : s.lexer = l)
    (hcomes : Comes s k o k') : Visits l input k' := by
  subst hl
  cases hcomes with
  | finished | failed => exact h
  | token _ hfirst => exact h.move (.inr hfirst.spec.1) hfirst.spec.2.1

theorem Visits.mem_passes {xs : List Lexeme} (h : Visits l input k)
    (hpass : Passes l.ignored k xs k') : ∀ x ∈ xs, ∃ k n, Visits l input k ∧ x = k.lexeme n := by
  induction hpass with
  | rest _ => exact fun x hx => absurd hx List.not_mem_nil
  | @pass k r n xs k' hfirst _ ih =>
    intro x hx
    rcases List.mem_cons.1 hx with rfl | hx
    · exact ⟨k, n, h, rfl⟩
    · exact ih (h.move (.inl hfirst.spec.1) hfirst.spec.2.1) x hx

theorem visits_after (l : Lexer) (input : String) (n : Nat) :
    Visits l input ((l.lex input).after n).cursor := by
  induction n with
  | zero => exact .start
  | succ n ih =>
    have hl : ((l.lex input).after n).lexer = l := lexer_after (l.lex input) n
    obtain ⟨k, hpass, hcomes, -⟩ := pull_cases ((l.lex input).after n)
    exact (ih.passes (hl ▸ hpass)).comes hl hcomes

end Visits

theorem mem_lexemes_pull {l : Lexer} {input : String} {n : Nat} {x : Lexeme}
    (hx : x ∈ ((l.lex input).after n).pull.lexemes) :
    ∃ k m, Visits l input k ∧ x = k.lexeme m := by
  have hstart := visits_after l input n
  have hl : ((l.lex input).after n).lexer = l := lexer_after (l.lex input) n
  obtain ⟨k, hpass, hcomes, -⟩ := pull_cases ((l.lex input).after n)
  rw [hl] at hpass
  rw [Pull.lexemes] at hx
  generalize ((l.lex input).after n).pull.outcome = o at hcomes hx
  generalize ((l.lex input).after n).pull.stream.cursor = k' at hcomes
  rcases List.mem_append.1 hx with hx | hx
  · exact hstart.mem_passes hpass x hx
  · cases hcomes with
    | finished | failed => exact absurd hx List.not_mem_nil
    | @token r m => exact ⟨k, m, hstart.passes hpass, List.mem_singleton.1 hx⟩

/-- What a rule matches at a place of the input is a span from there to where a beginning of the
input ends. -/
theorem match?_bounds {input : String} {k : Cursor} (hk : k.Sound input) {r : Rule} {m : Span}
    (hm : r.match? input k.offset = some m) :
    m.start = k.offset ∧ m.start ≤ m.stop ∧
      ∃ pre post, input.toList = pre ++ post ∧ Text.byteLength pre = m.stop := by
  rw [Rule.match?_offset hk] at hm
  obtain ⟨n, -, rfl⟩ := Option.map_eq_some_iff.1 hm
  have hn := hk.advance n
  refine ⟨rfl, ?_, (k.advance n).before.reverse, (k.advance n).after, hn.text.symm,
    hn.offset.symm⟩
  rw [Cursor.span, hk.offset_advance]
  exact Nat.le_add_right ..

theorem Comes.position_eq {s : Stream} {input : String} {k k' : Cursor} {t : Token} {x : Lexeme}
    (h : Comes s k (.token t x) k') (hk : k.Sound input) :
    t.text = x.text ∧ ∃ pre post, input.toList = pre ++ x.text.toList ++ post ∧
      Text.byteLength pre = x.start ∧ t.position = some (Position.behind pre) := by
  cases h with
  | @token r n =>
    refine ⟨rfl, k.before.reverse, k.after.drop n, ?_, hk.offset.symm, congrArg _ hk.position_eq⟩
    simp [Cursor.lexeme, hk.text]

/-- The position of a token is that behind the text before it, whatever was pulled before, and at
every visited place offset and position are those behind a beginning of the input. -/
theorem positions_true (l : Lexer) (input : String) :
    (∀ n t x, ((l.lex input).after n).pull.outcome = .token t x →
      t.text = x.text ∧ ∃ pre post, input.toList = pre ++ x.text.toList ++ post ∧
        Text.byteLength pre = x.start ∧ t.position = some (Position.behind pre)) ∧
    (∀ n, Visits l input ((l.lex input).after n).cursor ∧
      ∀ x ∈ ((l.lex input).after n).pull.lexemes, ∃ k m, Visits l input k ∧ x = k.lexeme m) ∧
    ∀ k, Visits l input k →
      (∃ pre, input.toList = pre ++ k.after ∧ Text.byteLength pre = k.offset ∧
        k.position = Position.behind pre) ∧
      k.offset ≤ Text.byteLength input.toList ∧ k.lineStart ≤ k.index ∧
      ∀ r : Rule, ∀ m, r.match? input k.offset = some m →
        m.start = k.offset ∧ m.start ≤ m.stop ∧
          ∃ pre post, input.toList = pre ++ post ∧ Text.byteLength pre = m.stop := by
  refine ⟨fun n t x htoken => ?_, fun n => ⟨visits_after l input n, fun x => mem_lexemes_pull⟩,
    fun k hvisits => ?_⟩
  · obtain ⟨k, hpass, hcomes, -⟩ := pull_cases ((l.lex input).after n)
    rw [htoken] at hcomes
    exact hcomes.position_eq (hpass.sound (sound_after l input n))
  · have hk := hvisits.sound
    exact ⟨⟨k.before.reverse, hk.text.symm, hk.offset.symm, hk.position_eq⟩, hk.offset_le,
      hk.lineStart_le, fun r m hm => match?_bounds hk hm⟩

end FrontEnd.Lexer
