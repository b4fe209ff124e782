import FrontEnd.Proofs.Pulls

namespace FrontEnd

namespace Rule

variable {p : Nat → Bool} {k : Cursor} {rules : List Rule}

theorem attempts_of_none (h : (tryInOrder p k rules).hit = none) :
    (tryInOrder p k rules).attempts = rules.length := by
  induction rules with
  | nil => rfl
  | cons r rules ih =>
    rw [tryInOrder] at h ⊢
    split at h
    · contradiction
    · exact congrArg (· + 1) (ih h)

theorem tryInOrder_append_of_hit {h : Rule × Nat} (hhit : (tryInOrder p k rules).hit = some h)
    (others : List Rule) : tryInOrder p k (rules ++ others) = tryInOrder p k rules := by
  induction rules with
  | nil => contradiction
  | cons r rules ih =>
    rw [tryInOrder] at hhit
    rw [List.cons_append, tryInOrder, tryInOrder]
    split at hhit
    · rfl
    · rw [ih hhit]

theorem tryInOrder_append_of_none (hnone : (tryInOrder p k rules).hit = none)
    (others : List Rule) :
    tryInOrder p k (rules ++ others) =
      ⟨(tryInOrder p k rules).attempts + (tryInOrder p k others).attempts,
        (tryInOrder p k others).hit⟩ := by
  induction rules with
  | nil => simp [tryInOrder]
  | cons r rules ih =>
    rw [tryInOrder] at hnone
    rw [List.cons_append, tryInOrder, tryInOrder]
    split at hnone
    · contradiction
    · rw [ih hnone]
      simp only [Trial.mk.injEq, and_true]
      omega

end Rule

namespace Lexer

def Pull.result (p : Pull) : Outcome × Stream := (p.outcome, p.stream)

namespace Stream

variable {s : Stream}

theorem passOver_of_end {rules : List Rule} {k : Cursor} (hk : k.after = []) :
    passOver rules k = ([], k, 0) := by
  rw [passOver, dif_pos hk]

theorem passOver_of_none {rules : List Rule} {k : Cursor} (hk : k.after ≠ [])
    (hnone : (Rule.tryInOrder (0 < ·) k rules).hit = none) :
    passOver rules k = ([], k, (Rule.tryInOrder (0 < ·) k rules).attempts) := by
  rw [passOver, dif_neg hk]
  dsimp only
  split
  · rfl
  · rename_i h
    rw [hnone] at h
    contradiction

theorem passOver_of_hit {rules : List Rule} {k : Cursor} {r : Rule} {n : Nat}
    (hk : k.after ≠ []) (hhit : (Rule.tryInOrder (0 < ·) k rules).hit = some (r, n)) :
    passOver rules k =
      (k.lexeme n :: (passOver rules (k.advance n)).1, (passOver rules (k.advance n)).2.1,
        (Rule.tryInOrder (0 < ·) k rules).attempts + (passOver rules (k.advance n)).2.2) := by
  rw [passOver, dif_neg hk]
  dsimp only
  split
  · rename_i h
    rw [hhit] at h
    contradiction
  · rename_i h
    rw [hhit] at h
    obtain ⟨rfl, rfl⟩ := Prod.mk.inj (Option.some.inj h)
    rfl

def trying (s : Stream) (attempts : Nat) : Stream :=
  { s with stats := { s.stats with attempts := s.stats.attempts + attempts } }

def passing (s : Stream) (n : Nat) : Stream :=
  { s with
    cursor := s.cursor.advance n
    stats := { s.stats with ignored := s.stats.ignored + 1 } }

def taking (s : Stream) (n : Nat) : Stream :=
  { s with
    cursor := s.cursor.advance n
    column := s.cursor.column
    stats := { s.stats with tokens := s.stats.tokens + 1 } }

theorem pull_of_end (hend : s.cursor.after = []) : s.pull = ⟨[], .finished, s⟩ := by
  unfold pull
  rw [passOver_of_end hend]
  simp only [Cursor.atEnd, hend, List.isEmpty_nil, if_true]
  rfl

/-- A pull that has something to pass over comes to what a pull from behind it comes to. -/
theorem result_pull_of_passing {r : Rule} {n : Nat} (hmore : s.cursor.after ≠ [])
    (hhit : (Rule.tryInOrder (0 < ·) s.cursor s.lexer.ignored).hit = some (r, n)) :
    s.pull.result =
      ((s.trying (Rule.tryInOrder (0 < ·) s.cursor s.lexer.ignored).attempts).passing
        n).pull.result := by
  have hpass := passOver_of_hit hmore hhit
  rcases hrest : passOver s.lexer.ignored (s.cursor.advance n) with ⟨more, k, others⟩
  rw [hrest] at hpass
  have hignored : s.stats.ignored + (more.length + 1) = s.stats.ignored + 1 + more.length := by
    omega
  -- from the place where both have nothing more to pass over, they do the same
  simp only [pull, hpass, trying, passing, hrest, List.length_cons, hignored, ← Nat.add_assoc]
  split
  · rfl
  · split <;> rfl

section Rest

variable (hmore : s.cursor.after ≠ [])
  (hrest : (Rule.tryInOrder (0 < ·) s.cursor s.lexer.ignored).hit = none)

include hmore hrest

/-- A pull that has nothing to pass over tries the rules of both kinds. -/
theorem pull_of_hit {r : Rule} {n : Nat}
    (hhit : (Rule.tryInOrder (fun _ => true) s.cursor s.lexer.rules).hit = some (r, n)) :
    s.pull = ⟨[], .token ⟨r.name, (s.cursor.lexeme n).text, some s.cursor.position⟩
        (s.cursor.lexeme n),
      (s.trying ((Rule.tryInOrder (0 < ·) s.cursor s.lexer.ignored).attempts +
        (Rule.tryInOrder (fun _ => true) s.cursor s.lexer.rules).attempts)).taking n⟩ := by
  simp only [pull, passOver_of_none hmore hrest, Cursor.atEnd, List.isEmpty_iff, hmore, if_false,
    hhit, ← Nat.add_assoc, trying, taking]
  rfl

theorem pull_of_none
    (hnone : (Rule.tryInOrder (fun _ => true) s.cursor s.lexer.rules).hit = none) :
    s.pull = ⟨[], .failed ⟨"", ⟨s.cursor.index, s.cursor.line, s.column⟩⟩,
      s.trying ((Rule.tryInOrder (0 < ·) s.cursor s.lexer.ignored).attempts +
        (Rule.tryInOrder (fun _ => true) s.cursor s.lexer.rules).attempts)⟩ := by
  simp only [pull, passOver_of_none hmore hrest, Cursor.atEnd, List.isEmpty_iff, hmore, if_false,
    hnone, ← Nat.add_assoc, trying]
  rfl

end Rest

end Stream

/-- There is nothing to pass over: the input is at its end, or no ignored rule is hit. -/
def Stream.Rests (s : Stream) : Prop :=
  s.cursor.after = [] ∨ (Rule.tryInOrder (0 < ·) s.cursor s.lexer.ignored).hit = none

/-- A pull comes to what a pull comes to where the stream rests next. -/
theorem exists_rests (s : Stream) :
    ∃ m : Stream, m.Rests ∧ m.lexer = s.lexer ∧ s.pull.result = m.pull.result := by
  -- each stretch that is passed over shortens what is left to read
  induction hlen : s.cursor.after.length using Nat.strongRecOn generalizing s with
  | ind len ih =>
    by_cases hend : s.cursor.after = []
    · exact ⟨s, .inl hend, rfl, rfl⟩
    cases hhit : (Rule.tryInOrder (0 < ·) s.cursor s.lexer.ignored).hit with
    | none => exact ⟨s, .inr hhit, rfl, rfl⟩
    | some found =>
      obtain ⟨r, n⟩ := found
      have hn : 0 < n := of_decide_eq_true (Rule.of_tryInOrder_hit hhit).2.2
      have hnearer := s.cursor.length_after_advance_lt hn hend
      obtain ⟨m, hm, hlexer, hresult⟩ := ih _ (hlen ▸ hnearer)
        ((s.trying (Rule.tryInOrder (0 < ·) s.cursor s.lexer.ignored).attempts).passing n) rfl
      exact ⟨m, hm, hlexer, (Stream.result_pull_of_passing hend hhit).trans hresult⟩

end Lexer
end FrontEnd
