import FrontEnd.Proofs.Failures
import FrontEnd.Proofs.Positions

namespace FrontEnd

namespace Position

def Precedes (p q : Position) : Prop :=
  p.line < q.line ∨ p.line = q.line ∧ p.column < q.column

theorem compare_eq (p q : Position) :
    compare p q =
      (compare p.index q.index).then
        ((compare p.line q.line).then (compare p.column q.column)) := by
  show instOrdPosition.ord p q = _
  rw [instOrdPosition.ord]
  simp only [Ordering.then_eq]

theorem precedes_iff_compare {p q : Position} :
    p.Precedes q ↔ (compare p.line q.line).then (compare p.column q.column) = .lt := by
  rw [Ordering.then_eq_lt, Nat.compare_eq_lt, Nat.compare_eq_eq, Nat.compare_eq_lt]
  rfl

/-- A text that goes on ends in a later line, or farther right in the same. -/
theorem precedes_behind_append {text more : List Char} (h : more ≠ []) :
    (behind text).Precedes (behind (text ++ more)) := by
  by_cases hfeed : '\n' ∈ more
  · left
    have hpos : 0 < more.count '\n' := List.count_pos_iff.2 hfeed
    simp only [behind, List.count_append]
    omega
  · right
    have hcount : more.count '\n' = 0 := List.count_eq_zero.2 hfeed
    have hline : (more.reverse ++ text.reverse).takeWhile (· != '\n') =
        more.reverse ++ text.reverse.takeWhile (· != '\n') := by
      apply List.takeWhile_append_of_pos
      intro c hc
      exact bne_iff_ne.2 fun e => hfeed (e ▸ List.mem_reverse.1 hc)
    have hpos : 0 < more.length := List.length_pos_iff.2 h
    simp only [behind, List.count_append, List.reverse_append, hline, List.length_append,
      List.length_reverse]
    omega

theorem Precedes.asymm {p q : Position} (h : p.Precedes q) : ¬ q.Precedes p := by
  unfold Precedes at *
  omega

section Behind

variable {input text text' : List Char}

theorem precedes_behind_of_length_lt (h : text <+: input) (h' : text' <+: input)
    (hlt : text.length < text'.length) : (behind text).Precedes (behind text') := by
  obtain ⟨more, rfl⟩ := List.prefix_of_prefix_length_le h h' (Nat.le_of_lt hlt)
  apply precedes_behind_append
  rintro rfl
  simp at hlt

theorem behind_eq_iff (h : text <+: input) (h' : text' <+: input) :
    text.length = text'.length ↔ behind text = behind text' := by
  constructor
  · intro hlen
    rw [(List.prefix_of_prefix_length_le h h' (Nat.le_of_eq hlen)).eq_of_length hlen]
  · exact congrArg index

theorem precedes_behind_iff (h : text <+: input) (h' : text' <+: input) :
    text.length < text'.length ↔ (behind text).Precedes (behind text') := by
  refine ⟨precedes_behind_of_length_lt h h', fun hprec => ?_⟩
  rcases Nat.lt_trichotomy text.length text'.length with hlt | heq | hgt
  · exact hlt
  · rw [(behind_eq_iff h h').1 heq] at hprec
    exact absurd hprec hprec.asymm
  · exact absurd hprec (precedes_behind_of_length_lt h' h hgt).asymm

end Behind

end Position

namespace Lexer

/-! ### Runs -/

section Runs

variable {k k' : Cursor}

theorem Passes.index_le {rules : List Rule} {xs : List Lexeme} (h : Passes rules k xs k') :
    k.index ≤ k'.index := by
  induction h with
  | rest _ => exact Nat.le_refl _
  | @pass k r n xs k' _ _ ih =>
    rw [Cursor.index_advance] at ih
    omega

theorem Comes.index_le {s : Stream} {o : Outcome} (h : Comes s k o k') : k.index ≤ k'.index := by
  cases h with
  | finished | failed => exact Nat.le_refl _
  | token => exact Cursor.index_advance .. ▸ Nat.le_add_right ..

theorem Comes.index_eq {s : Stream} {t : Token} {x : Lexeme} (h : Comes s k (.token t x) k') :
    ∃ p, t.position = some p ∧ p.index = k.index ∧ k'.index = p.index + t.text.length := by
  cases h with
  | @token r n =>
    refine ⟨k.position, rfl, rfl, ?_⟩
    rw [Cursor.index_advance, Cursor.lexeme, String.length_ofList]
    rfl

theorem index_le_pull (s : Stream) : s.cursor.index ≤ s.pull.stream.cursor.index := by
  obtain ⟨k, hpass, hcomes, -⟩ := pull_cases s
  exact Nat.le_trans hpass.index_le hcomes.index_le

/-- A token is placed not before the stream, and its text not behind the stream after it. -/
theorem index_of_token {s : Stream} {t : Token} {x : Lexeme} (h : s.pull.outcome = .token t x) :
    ∃ p, t.position = some p ∧ s.cursor.index ≤ p.index ∧
      p.index + t.text.length = s.pull.stream.cursor.index := by
  obtain ⟨k, hpass, hcomes, -⟩ := pull_cases s
  rw [h] at hcomes
  obtain ⟨p, hp, hindex, hnext⟩ := hcomes.index_eq
  exact ⟨p, hp, hindex ▸ hpass.index_le, hnext.symm⟩

theorem index_le_after (s : Stream) {m n : Nat} (h : m ≤ n) :
    (s.after m).cursor.index ≤ (s.after n).cursor.index := by
  induction h with
  | refl => exact Nat.le_refl _
  | step _ ih => exact Nat.le_trans ih (index_le_pull _)

/-- What is made later has at least the index behind the text of what was made before. -/
theorem index_le_of_lt {s : Stream} {m n : Nat} {t u : Token} {x y : Lexeme} {p q : Position}
    (hlt : m < n) (ht : (s.after m).pull.outcome = .token t x)
    (hu : (s.after n).pull.outcome = .token u y) (hp : t.position = some p)
    (hq : u.position = some q) : p.index + t.text.length ≤ q.index := by
  obtain ⟨p', hp', -, hnext⟩ := index_of_token ht
  obtain ⟨q', hq', hle, -⟩ := index_of_token hu
  obtain rfl := Option.some.inj (hp.symm.trans hp')
  obtain rfl := Option.some.inj (hq.symm.trans hq')
  exact hnext ▸ Nat.le_trans (index_le_after s hlt) hle

end Runs

/-! ### Positions of tokens -/

/-- The positions of all tokens that any stream of any lexer makes of an input. -/
def Placed (input : String) (p : Position) : Prop :=
  ∃ (l : Lexer) (n : Nat) (t : Token) (x : Lexeme),
    ((l.lex input).after n).pull.outcome = .token t x ∧ t.position = some p

section Placed

variable {input : String} {p q : Position}

theorem Placed.exists_behind (h : Placed input p) :
    ∃ text, text <+: input.toList ∧ p = .behind text := by
  obtain ⟨l, n, t, x, htoken, hp⟩ := h
  obtain ⟨k, hpass, hcomes, -⟩ := pull_cases ((l.lex input).after n)
  rw [htoken] at hcomes
  obtain ⟨-, pre, post, hinput, -, hposition⟩ :=
    hcomes.position_eq (hpass.sound (sound_after l input n))
  refine ⟨pre, ⟨x.text.toList ++ post, ?_⟩, Option.some.inj (hp.symm.trans hposition)⟩
  rw [hinput, List.append_assoc]

theorem Placed.index_lt_iff (hp : Placed input p) (hq : Placed input q) :
    p.index < q.index ↔ p.Precedes q := by
  obtain ⟨text, htext, rfl⟩ := hp.exists_behind
  obtain ⟨text', htext', rfl⟩ := hq.exists_behind
  exact Position.precedes_behind_iff htext htext'

theorem Placed.index_eq_iff (hp : Placed input p) (hq : Placed input q) :
    p.index = q.index ↔ p = q := by
  obtain ⟨text, htext, rfl⟩ := hp.exists_behind
  obtain ⟨text', htext', rfl⟩ := hq.exists_behind
  exact Position.behind_eq_iff htext htext'

/-- The index decides how positions of one input compare. -/
theorem Placed.compare_index (hp : Placed input p) (hq : Placed input q) :
    compare p q = compare p.index q.index := by
  rw [Position.compare_eq]
  cases h : compare p.index q.index with
  | lt | gt => rfl
  | eq =>
    obtain rfl := (hp.index_eq_iff hq).1 (Nat.compare_eq_eq.1 h)
    simp

theorem Placed.compare_line (hp : Placed input p) (hq : Placed input q) :
    compare p q = (compare p.line q.line).then (compare p.column q.column) := by
  rw [hp.compare_index hq]
  cases h : compare p.index q.index with
  | lt =>
    have hprec := (hp.index_lt_iff hq).1 (Nat.compare_eq_lt.1 h)
    exact (Position.precedes_iff_compare.1 hprec).symm
  | eq =>
    obtain rfl := (hp.index_eq_iff hq).1 (Nat.compare_eq_eq.1 h)
    simp
  | gt =>
    have hprec := (hq.index_lt_iff hp).1 (Nat.compare_eq_gt.1 h)
    have hswap := congrArg Ordering.swap (Position.precedes_iff_compare.1 hprec)
    rw [Ordering.swap_then, Nat.compare_swap, Nat.compare_swap] at hswap
    exact hswap.symm

end Placed

/-- Over one input tokens are ordered by index as they are by line and column, whatever streams
have made them. In one stream they never go back, and behind a token with text they go on. -/
theorem tokens_ordered (input : String) :
    (∀ p q, Placed input p → Placed input q →
      (p.index < q.index ↔ p.line < q.line ∨ p.line = q.line ∧ p.column < q.column) ∧
      (p.index = q.index ↔ p = q) ∧
      compare p q = compare p.index q.index ∧
      compare p q = (compare p.line q.line).then (compare p.column q.column)) ∧
    ∀ (l : Lexer) (m n : Nat) (t u : Token) (x y : Lexeme) (p q : Position), m < n →
      ((l.lex input).after m).pull.outcome = .token t x →
      ((l.lex input).after n).pull.outcome = .token u y →
      t.position = some p → u.position = some q →
      compare p q ≠ .gt ∧ (t.text ≠ "" → compare p q = .lt) := by
  refine ⟨fun p q hp hq => ?_, fun l m n t u x y p q hlt ht hu hp hq => ?_⟩
  · exact ⟨hp.index_lt_iff hq, hp.index_eq_iff hq, hp.compare_index hq, hp.compare_line hq⟩
  · have hle := index_le_of_lt hlt ht hu hp hq
    rw [Placed.compare_index ⟨l, m, t, x, ht, hp⟩ ⟨l, n, u, y, hu, hq⟩, ne_eq,
      Nat.compare_eq_gt, Nat.compare_eq_lt]
    refine ⟨by omega, fun htext => ?_⟩
    have hpos : t.text.length ≠ 0 := mt String.length_eq_zero_iff.1 htext
    omega

def feeding : Lexer := { rules := [⟨"A", only 'a'⟩, ⟨"LF", only '\n'⟩] }

/-- One lexer makes a token of the line feed, another passes over it. -/
theorem tokens_ordered_lines :
    let s := feeding.lex "\na"
    let s' := lined.lex "\na"
    let p : Position := ⟨0, 1, 1⟩
    let q : Position := ⟨1, 2, 1⟩
    s.pull.outcome = .token ⟨"LF", "\n", some p⟩ ⟨0, 1, "\n"⟩ ∧
      (s.after 1).pull.outcome = .token ⟨"A", "a", some q⟩ ⟨1, 2, "a"⟩ ∧
      s'.pull.outcome = .token ⟨"A", "a", some q⟩ ⟨1, 2, "a"⟩ ∧
      (p.index < q.index ↔ p.line < q.line ∨ p.line = q.line ∧ p.column < q.column) ∧
      compare p q = .lt := by
  intro s s' p q
  let once := (s.trying 2).taking 1
  have hfirst : s.pull = ⟨[], .token ⟨"LF", "\n", some p⟩ ⟨0, 1, "\n"⟩, once⟩ :=
    Stream.pull_of_hit (s := s) (r := ⟨"LF", only '\n'⟩) (by decide) rfl rfl
  have hsecond : once.pull.outcome = .token ⟨"A", "a", some q⟩ ⟨1, 2, "a"⟩ :=
    congrArg Pull.outcome
      (Stream.pull_of_hit (s := once) (r := ⟨"A", only 'a'⟩) (by decide) rfl rfl)
  have hother : s'.pull.outcome = .token ⟨"A", "a", some q⟩ ⟨1, 2, "a"⟩ := by
    have hpass := Stream.result_pull_of_passing (s := s') (r := ⟨"", only '\n'⟩) (n := 1)
      (by decide) rfl
    have hhit := Stream.pull_of_hit (s := (s'.trying 1).passing 1) (r := ⟨"A", only 'a'⟩)
      (by decide) rfl rfl
    exact (congrArg Prod.fst hpass).trans (congrArg Pull.outcome hhit)
  have hm : (s.after 0).pull.outcome = .token ⟨"LF", "\n", some p⟩ ⟨0, 1, "\n"⟩ :=
    congrArg Pull.outcome hfirst
  have hn : (s.after 1).pull.outcome = .token ⟨"A", "a", some q⟩ ⟨1, 2, "a"⟩ := by
    rw [show s.after 1 = once from congrArg Pull.stream hfirst]
    exact hsecond
  obtain ⟨hplaced, hrun⟩ := tokens_ordered "\na"
  refine ⟨hm, hn, hother, ?_, ?_⟩
  · exact (hplaced p q ⟨feeding, 0, _, _, hm, rfl⟩ ⟨lined, 0, _, _, hother, rfl⟩).1
  · exact (hrun feeding 0 1 _ _ _ _ p q (by decide) hm hn rfl rfl).2 (by decide)

end Lexer
end FrontEnd
