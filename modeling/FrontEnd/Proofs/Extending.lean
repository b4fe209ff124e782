import FrontEnd.Proofs.Rests

namespace FrontEnd.Lexer

def extended (l : Lexer) (extra : List Rule) : Lexer := { l with rules := l.rules ++ extra }

def Stream.extended (s : Stream) (extra : List Rule) : Stream :=
  { s with lexer := s.lexer.extended extra }

/-- What a pull becomes when there are more rules to try. An error leaves the stream where all the
others have been tried in vain, so there the new ones have their turn. -/
inductive Pull.Extends (extra : List Rule) (p : Pull) : Pull → Prop where
  | same (hkept : ∀ e, p.outcome ≠ .failed e) :
      Extends extra p { p with stream := p.stream.extended extra }
  | failed {e} (hfailed : p.outcome = .failed e)
      (hnone : (Rule.tryInOrder (fun _ => true) p.stream.cursor extra).hit = none) :
      Extends extra p { p with
        stream := (p.stream.extended extra).trying
          (Rule.tryInOrder (fun _ => true) p.stream.cursor extra).attempts }
  | token {e r n} (hfailed : p.outcome = .failed e)
      (hhit : (Rule.tryInOrder (fun _ => true) p.stream.cursor extra).hit = some (r, n)) :
      Extends extra p
        { skipped := p.skipped
          outcome := .token ⟨r.name, (p.stream.cursor.lexeme n).text,
            some p.stream.cursor.position⟩ (p.stream.cursor.lexeme n)
          stream := ((p.stream.extended extra).trying
            (Rule.tryInOrder (fun _ => true) p.stream.cursor extra).attempts).taking n }

theorem pull_extended (s : Stream) (extra : List Rule) :
    s.pull.Extends extra (s.extended extra).pull := by
  -- passing over does not look at the rules for tokens
  have hpass : Stream.passOver (s.extended extra).lexer.ignored (s.extended extra).cursor =
      Stream.passOver s.lexer.ignored s.cursor := rfl
  have hrules : (s.extended extra).lexer.rules = s.lexer.rules ++ extra := rfl
  unfold Stream.pull
  rw [hpass, hrules]
  generalize Stream.passOver s.lexer.ignored s.cursor = passed
  obtain ⟨skipped, k, attempts⟩ := passed
  dsimp only
  cases hend : k.atEnd with
  | true =>
    simp only [if_true]
    exact .same nofun
  | false =>
    simp only [Bool.false_eq_true, if_false]
    cases hhit : (Rule.tryInOrder (fun _ => true) k s.lexer.rules).hit with
    | some found =>
      rw [Rule.tryInOrder_append_of_hit hhit, hhit]
      exact .same nofun
    | none =>
      rw [Rule.tryInOrder_append_of_none hhit]
      cases hextra : (Rule.tryInOrder (fun _ => true) k extra).hit with
      | none =>
        simp only [← Nat.add_assoc]
        exact .failed rfl hextra
      | some found =>
        simp only [← Nat.add_assoc]
        exact .token rfl hextra

section Pull

variable {extra : List Rule} {p p' : Pull} (h : p.Extends extra p')

include h

theorem Pull.Extends.skipped_eq : p'.skipped = p.skipped := by
  cases h <;> rfl

theorem Pull.Extends.eq_of_kept (hkept : ∀ e, p.outcome ≠ .failed e) :
    p' = { p with stream := p.stream.extended extra } := by
  cases h with
  | same => rfl
  | failed hfailed | token hfailed => exact absurd hfailed (hkept _)

theorem Pull.Extends.of_failed {e : LexingError} (hfailed : p.outcome = .failed e) :
    p'.outcome = .failed e ∧ p'.stream.offset = p.stream.offset ∨
      ∃ t x, p'.outcome = .token t x ∧ (∃ r ∈ extra, t.kind = r.name) ∧
        x.start = p.stream.offset := by
  cases h with
  | same hkept => exact absurd hfailed (hkept e)
  | failed => exact .inl ⟨hfailed, rfl⟩
  | token _ hhit => exact .inr ⟨_, _, rfl, ⟨_, (Rule.of_tryInOrder_hit hhit).1, rfl⟩, rfl⟩

end Pull

/-- As long as there is no error, the streams are the same but for the rules. -/
theorem after_extended {s : Stream} (extra : List Rule) {n : Nat}
    (hkept : ∀ i < n, ∀ e, (s.after i).pull.outcome ≠ .failed e) :
    (s.extended extra).after n = (s.after n).extended extra := by
  induction n with
  | zero => rfl
  | succ n ih =>
    have hbefore := ih fun i hi => hkept i (by omega)
    have hpull := (pull_extended (s.after n) extra).eq_of_kept (hkept n (by omega))
    rw [Stream.after, hbefore, hpull]
    rfl

/-- Rules behind those of a lexer leave what it makes of an input as it is, up to its first error:
the pulls pass over the same, come to the same tokens or the end, and leave the same offset and the
same counters. In the place of that error they may make a token. -/
theorem extended_conservative (l : Lexer) (extra : List Rule) (input : String) (n : Nat)
    (hkept : ∀ i < n, ∀ e, ((l.lex input).after i).pull.outcome ≠ .failed e) :
    let s := (l.lex input).after
    let s' := ((l.extended extra).lex input).after
    (∀ i < n, (s' i).pull.skipped = (s i).pull.skipped ∧
      (s' i).pull.outcome = (s i).pull.outcome) ∧
    (∀ i ≤ n, (s' i).offset = (s i).offset ∧ (s' i).stats = (s i).stats) ∧
    ∀ e, (s n).pull.outcome = .failed e →
      (s' n).pull.skipped = (s n).pull.skipped ∧
      ((s' n).pull.outcome = .failed e ∧ (s' (n + 1)).offset = (s (n + 1)).offset ∨
        ∃ t x, (s' n).pull.outcome = .token t x ∧ (∃ r ∈ extra, t.kind = r.name) ∧
          x.start = (s (n + 1)).offset) := by
  intro s s'
  have hafter : ∀ i ≤ n, s' i = (s i).extended extra := fun i hi =>
    after_extended extra fun j hj => hkept j (by omega)
  have hpull : ∀ i ≤ n, (s i).pull.Extends extra (s' i).pull := by
    intro i hi
    rw [hafter i hi]
    exact pull_extended (s i) extra
  refine ⟨fun i hi => ?_, fun i hi => ?_, fun e hfailed => ?_⟩
  · have hsame := (hpull i (by omega)).eq_of_kept (hkept i hi)
    rw [hsame]
    exact ⟨rfl, rfl⟩
  · rw [hafter i hi]
    exact ⟨rfl, rfl⟩
  · have hextends := hpull n (Nat.le_refl n)
    exact ⟨hextends.skipped_eq, hextends.of_failed hfailed⟩

def letter : Lexer := { rules := [⟨"A", only 'a'⟩] }

/-- The letter b, which only the rule behind the other knows, does not matter before its turn. -/
theorem extended_conservative_letter :
    let s := (letter.lex "ab").after
    let s' := ((letter.extended [⟨"B", only 'b'⟩]).lex "ab").after
    (∀ i < 1, ∀ e, (s i).pull.outcome ≠ .failed e) ∧
      (s' 0).pull.outcome = .token ⟨"A", "a", some ⟨0, 1, 1⟩⟩ ⟨0, 1, "a"⟩ ∧
      (s' 1).offset = (s 1).offset ∧ (s' 1).stats = (s 1).stats := by
  intro s s'
  have htoken : (s 0).pull.outcome = .token ⟨"A", "a", some ⟨0, 1, 1⟩⟩ ⟨0, 1, "a"⟩ := by
    have hpull := Stream.pull_of_hit (s := letter.lex "ab") (r := ⟨"A", only 'a'⟩) (n := 1)
      (by decide) rfl rfl
    exact congrArg Pull.outcome hpull
  have hkept : ∀ i < 1, ∀ e, (s i).pull.outcome ≠ .failed e := by
    intro i hi e hfailed
    obtain rfl : i = 0 := by omega
    rw [htoken] at hfailed
    contradiction
  obtain ⟨hsame, hat, -⟩ := extended_conservative letter [⟨"B", only 'b'⟩] "ab" 1 hkept
  exact ⟨hkept, (hsame 0 (by omega)).2.trans htoken, hat 1 (by omega)⟩

end FrontEnd.Lexer
