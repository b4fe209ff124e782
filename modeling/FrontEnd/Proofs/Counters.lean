import FrontEnd.Proofs.Failures
import FrontEnd.Proofs.Tiling
import Mathlib.Algebra.GroupWithZero.Nat

namespace FrontEnd

/-! ### Places of rules -/

namespace Rule

variable {β γ : Type}

/-- The place, counted from one, of the first rule for which `f` has something with `P`. -/
def place (f : Rule → Option β) (P : β → Prop) [DecidablePred P] (rules : List Rule) : Nat :=
  rules.findIdx (fun r => (f r).any (P ·)) + 1

def Placed (f : Rule → Option β) (P : β → Prop) (rules : List Rule) (place : Nat) (r : Rule)
    (b : β) : Prop :=
  ∃ before after, rules = before ++ r :: after ∧ place = before.length + 1 ∧ Fails f P before ∧
    f r = some b ∧ P b

section Place

variable {f : Rule → Option β} {P : β → Prop} [DecidablePred P] {rules : List Rule}

theorem place_cons_of_some {r : Rule} {b : β} (hr : f r = some b) (hb : P b) :
    place f P (r :: rules) = 1 := by
  simp [place, List.findIdx_cons, hr, hb]

theorem place_cons_of_skip {r : Rule} (hskip : ∀ b, f r = some b → ¬ P b) :
    place f P (r :: rules) = place f P rules + 1 := by
  have hany : (f r).any (P ·) = false := by
    cases hr : f r with
    | none => rfl
    | some b => simpa using hskip b hr
  simp [place, List.findIdx_cons, hany]

theorem First.placed {r : Rule} {b : β} (h : First f P rules r b) :
    Placed f P rules (place f P rules) r b := by
  induction h with
  | @here r rest b hr hb =>
    exact ⟨[], rest, rfl, place_cons_of_some hr hb, fun _ h => absurd h List.not_mem_nil, hr, hb⟩
  | @later r' rest r b hskip _ ih =>
    obtain ⟨before, after, rfl, hplace, hfails, hr, hb⟩ := ih
    refine ⟨r' :: before, after, rfl, ?_, fun q hq => ?_, hr, hb⟩
    · rw [place_cons_of_skip hskip, hplace, List.length_cons]
    · rcases List.mem_cons.1 hq with rfl | hq
      · exact hskip
      · exact hfails q hq

theorem place_map {f' : Rule → Option γ} {P' : γ → Prop} [DecidablePred P'] {g : β → γ}
    (hf : ∀ r, f' r = (f r).map g) (hP : ∀ r b, f r = some b → (P' (g b) ↔ P b)) :
    place f' P' rules = place f P rules := by
  have hany (r : Rule) : (f' r).any (P' ·) = (f r).any (P ·) := by
    rw [hf]
    cases hr : f r with
    | none => rfl
    | some b => simp [hP r b hr]
  simp only [place, hany]

end Place

theorem attempts_of_hit {p : Nat → Bool} {k : Cursor} {rules : List Rule} {r : Rule} {n : Nat}
    (h : (tryInOrder p k rules).hit = some (r, n)) :
    (tryInOrder p k rules).attempts = place (lengthAt? · k) (p · = true) rules := by
  induction rules with
  | nil => contradiction
  | cons r' rules ih =>
    rw [tryInOrder] at h ⊢
    split at h
    · rename_i m hm
      rw [Option.filter_eq_some_iff] at hm
      exact (place_cons_of_some (P := (p · = true)) hm.1 hm.2).symm
    · rename_i hm
      rw [place_cons_of_skip fun _ => not_of_filter_eq_none hm, ← ih h]

end Rule

def Lexeme.span (x : Lexeme) : Span := ⟨x.start, x.stop⟩

namespace Lexer

/-! ### What a pull costs -/

section Cost

variable (l : Lexer) (input : String)

/-- The place of the ignored rule that a stretch is due to: the first with a match there that is not
empty. -/
def ignoredPlace (x : Lexeme) : Nat :=
  Rule.place (Rule.match? · input x.start) (fun m => m.start < m.stop) l.ignored

def rulePlace (x : Lexeme) : Nat :=
  Rule.place (Rule.match? · input x.start) (fun _ => True) l.rules

/-- The attempts it takes to find out what comes where no more can be passed over. -/
def Outcome.cost : Outcome → Nat
  | .token _ x => l.ignored.length + l.rulePlace input x
  | .finished => 0
  | .failed _ => l.ignored.length + l.rules.length

end Cost

section Places

variable {l : Lexer} {input : String} {k : Cursor} (hk : k.Sound input) {r : Rule} {n : Nat}

include hk

theorem attempts_of_passing (hhit : (Rule.tryInOrder (0 < ·) k l.ignored).hit = some (r, n)) :
    (Rule.tryInOrder (0 < ·) k l.ignored).attempts = l.ignoredPlace input (k.lexeme n) := by
  rw [Rule.attempts_of_hit hhit]
  refine (Rule.place_map (Rule.match?_offset hk) fun r m hm => ?_).symm
  rw [Rule.span_lt_iff hk hm, decide_eq_true_eq]

theorem attempts_of_taking (hhit : (Rule.tryInOrder (fun _ => true) k l.rules).hit = some (r, n)) :
    (Rule.tryInOrder (fun _ => true) k l.rules).attempts = l.rulePlace input (k.lexeme n) := by
  rw [Rule.attempts_of_hit hhit]
  exact (Rule.place_map (Rule.match?_offset hk) fun _ _ _ => by simp).symm

/-- Each round of passing over stops at the rule that matches; the last one, which comes before the
end of the input or not at all, tries all rules. -/
theorem attempts_passOver :
    (Stream.passOver l.ignored k).2.2 =
      ((Stream.passOver l.ignored k).1.map (l.ignoredPlace input)).sum +
        if (Stream.passOver l.ignored k).2.1.atEnd then 0 else l.ignored.length := by
  fun_induction Stream.passOver l.ignored k with
  | case1 k hend => simp [Cursor.atEnd, hend]
  | case2 k hend t ht => simp [Cursor.atEnd, hend, t, Rule.attempts_of_none ht]
  | case3 k hend t r n ht hlt more last others he ih =>
    have ih := ih (hk.advance n)
    rw [he] at ih
    have hround : t.attempts = l.ignoredPlace input (k.lexeme n) := attempts_of_passing hk ht
    simp only [List.map_cons, List.sum_cons] at ih ⊢
    omega

end Places

structure Pull.Counted (l : Lexer) (input : String) (before : Stats) (p : Pull) : Prop where
  tokens : p.stream.stats.tokens = before.tokens + if p.token?.isSome then 1 else 0
  ignored : p.stream.stats.ignored = before.ignored + p.skipped.length
  attempts : p.stream.stats.attempts =
    before.attempts + ((p.skipped.map (l.ignoredPlace input)).sum + p.outcome.cost l input)

theorem counted_pull {s : Stream} {input : String} (hk : s.cursor.Sound input) :
    s.pull.Counted s.lexer input s.stats := by
  have hpass := passes_passOver s.lexer.ignored s.cursor
  have hattempts := attempts_passOver (l := s.lexer) hk
  unfold Stream.pull
  generalize Stream.passOver s.lexer.ignored s.cursor = passed at hpass hattempts ⊢
  obtain ⟨skipped, k, attempts⟩ := passed
  dsimp only at hpass hattempts ⊢
  by_cases hend : k.atEnd = true
  · rw [if_pos hend] at hattempts ⊢
    exact ⟨rfl, rfl, congrArg (_ + ·) hattempts⟩
  · rw [if_neg hend] at hattempts ⊢
    split
    · rename_i r n hhit
      have htaking := attempts_of_taking (hpass.sound hk) hhit
      refine ⟨rfl, rfl, ?_⟩
      simp only [Outcome.cost]
      omega
    · rename_i hnone
      have hall := Rule.attempts_of_none hnone
      refine ⟨rfl, rfl, ?_⟩
      simp only [Outcome.cost]
      omega

/-! ### Runs -/

def Stream.pulls (s : Stream) (n : Nat) : List Pull := (List.range n).map fun i => (s.after i).pull

theorem Stream.pulls_succ (s : Stream) (n : Nat) :
    s.pulls (n + 1) = s.pulls n ++ [(s.after n).pull] := by
  rw [pulls, List.range_succ, List.map_append]
  rfl

theorem Ignores.first_of_mem {l : Lexer} {input : String} {s e : Nat} {xs : List Lexeme}
    (h : Ignores l input s xs e) :
    ∀ x ∈ xs, ∃ r, Rule.First (Rule.match? · input x.start) (fun m => m.start < m.stop) l.ignored r
      x.span := by
  induction h with
  | rest _ => exact fun x hx => absurd hx List.not_mem_nil
  | @pass s r x xs e hs hfirst _ _ ih =>
    intro y hy
    rcases List.mem_cons.1 hy with rfl | hy
    · subst hs
      exact ⟨r, hfirst⟩
    · exact ih y hy

theorem Decides.first_of_token {l : Lexer} {input : String} {s e : Nat} {t : Token} {x : Lexeme}
    (h : Decides l input s (.token t x) e) :
    ∃ r, r.name = t.kind ∧
      Rule.First (Rule.match? · input x.start) (fun _ => True) l.rules r x.span := by
  cases h with
  | token hs hstart hfirst _ hkind =>
    subst hstart
    exact ⟨_, hkind.symm, hfirst⟩

/-- The counters of a run are the sums of what its pulls have added. -/
theorem stats_after (l : Lexer) (input : String) (n : Nat) :
    let ps := (l.lex input).pulls n
    ((l.lex input).after n).stats =
      { tokens := ps.countP (·.token?.isSome)
        ignored := (ps.flatMap Pull.skipped).length
        attempts := ((ps.flatMap Pull.skipped).map (l.ignoredPlace input)).sum +
          (ps.map (·.outcome.cost l input)).sum } := by
  induction n with
  | zero => rfl
  | succ n ih =>
    have hl : ((l.lex input).after n).lexer = l := lexer_after (l.lex input) n
    have hcounted := counted_pull (sound_after l input n)
    rw [hl, ih] at hcounted
    obtain ⟨htokens, hignored, hattempts⟩ := hcounted
    rw [Stream.after]
    generalize ((l.lex input).after n).pull.stream.stats = stats at htokens hignored hattempts ⊢
    obtain ⟨tokens, ignored, attempts⟩ := stats
    dsimp only at hattempts
    simp only [Stream.pulls_succ, List.countP_append, List.countP_singleton, List.flatMap_append,
      List.flatMap_singleton, List.map_append, List.length_append, List.sum_append,
      List.map_singleton, List.sum_singleton, Stats.mk.injEq]
    refine ⟨htokens, hignored, ?_⟩
    omega

/-- After any pulls the counters are those of the run: the pulls that made a token, the stretches
passed over, and the rules tried, by the place of the rule that each stretch and each token is due
to. -/
theorem counters_exact (l : Lexer) (input : String) (n : Nat) :
    let s := l.lex input
    let ps := s.pulls n
    let stats := (s.after n).stats
    stats.tokens = ps.countP (·.token?.isSome) ∧
    stats.ignored = (ps.flatMap Pull.skipped).length ∧
    stats.attempts = ((ps.flatMap Pull.skipped).map (l.ignoredPlace input)).sum +
      (ps.map (·.outcome.cost l input)).sum ∧
    ∀ p ∈ ps,
      (∀ x ∈ p.skipped, ∃ r, Rule.Placed (Rule.match? · input x.start)
        (fun m => m.start < m.stop) l.ignored (l.ignoredPlace input x) r x.span) ∧
      ∀ t x, p.outcome = .token t x → ∃ r, r.name = t.kind ∧
        Rule.Placed (Rule.match? · input x.start) (fun _ => True) l.rules (l.rulePlace input x) r
          x.span := by
  intro s ps stats
  have hstats : stats = _ := stats_after l input n
  refine ⟨congrArg Stats.tokens hstats, congrArg Stats.ignored hstats,
    congrArg Stats.attempts hstats, fun p hp => ?_⟩
  obtain ⟨i, -, rfl⟩ := List.mem_map.1 hp
  obtain ⟨e, hignores, hdecides⟩ := pull_after l input i
  refine ⟨fun x hx => ?_, fun t x htoken => ?_⟩
  · obtain ⟨r, hfirst⟩ := hignores.first_of_mem x hx
    exact ⟨r, hfirst.placed⟩
  · rw [htoken] at hdecides
    obtain ⟨r, hname, hfirst⟩ := hdecides.first_of_token
    exact ⟨r, hname, hfirst.placed⟩

end Lexer
end FrontEnd
