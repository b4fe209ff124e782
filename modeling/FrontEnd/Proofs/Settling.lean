import FrontEnd.Proofs.Rests
import Mathlib.Tactic.ByContra

namespace FrontEnd.Lexer

/-- What pulls come to that take no text for a token. -/
def Outcome.Idle : Outcome → Prop
  | .token t _ => t.text = ""
  | .finished | .failed _ => True

theorem text_lexeme_eq_empty {k : Cursor} {n : Nat} (hn : n ≤ k.after.length) :
    (k.lexeme n).text = "" ↔ n = 0 := by
  rw [← String.toList_inj, Cursor.lexeme, String.toList_ofList, String.toList_empty,
    List.take_eq_nil_iff, ← List.length_eq_zero_iff]
  omega

section Progress

variable {rules : List Rule} {k k' : Cursor} {xs : List Lexeme}

theorem Passes.length_add_le (h : Passes rules k xs k') :
    xs.length + k'.after.length ≤ k.after.length := by
  induction h with
  | rest _ => simp
  | @pass k r n xs k' h _ ih =>
    obtain ⟨-, hlength, hpos⟩ := h.spec
    have hle : n ≤ k.after.length := r.matcher.length_le hlength
    rw [Cursor.after_advance, List.length_drop] at ih
    rw [List.length_cons]
    omega

theorem Passes.text_ne_empty (h : Passes rules k xs k') : ∀ x ∈ xs, x.text ≠ "" := by
  induction h with
  | rest _ => simp
  | @pass k r n xs k' h _ ih =>
    obtain ⟨-, hlength, hpos⟩ := h.spec
    intro x hx
    rcases List.mem_cons.1 hx with rfl | hx
    · rw [ne_eq, text_lexeme_eq_empty (r.matcher.length_le hlength)]
      omega
    · exact ih x hx

/-- What is not idle is a token with text, which is read with it. -/
theorem Comes.length_lt {s : Stream} {o : Outcome} (h : Comes s k o k') (ho : ¬ o.Idle) :
    k'.after.length < k.after.length := by
  cases h with
  | finished | failed => exact absurd trivial ho
  | @token r n hmore hfirst =>
    obtain ⟨-, hlength, -⟩ := hfirst.spec
    apply k.length_after_advance_lt _ hmore
    apply Nat.pos_of_ne_zero
    exact mt (text_lexeme_eq_empty (r.matcher.length_le hlength)).2 ho

end Progress

theorem length_pull_lt {s : Stream} (h : ¬ s.pull.outcome.Idle) :
    s.pull.stream.cursor.after.length < s.cursor.after.length := by
  obtain ⟨k, hpass, hcomes, -⟩ := pull_cases s
  have hle := hpass.length_add_le
  have hlt := hcomes.length_lt h
  omega

/-- Pulls that are not idle are no more than the characters of the input. -/
theorem add_length_le (l : Lexer) (input : String) (n : Nat)
    (h : ∀ i < n, ¬ ((l.lex input).after i).pull.outcome.Idle) :
    n + ((l.lex input).after n).cursor.after.length ≤ input.length := by
  induction n with
  | zero =>
    show 0 + input.toList.length ≤ input.length
    rw [String.length_toList]
    omega
  | succ n ih =>
    have hle := ih fun i hi => h i (by omega)
    have hlt := length_pull_lt (h n (by omega))
    show n + 1 + ((l.lex input).after n).pull.stream.cursor.after.length ≤ input.length
    omega

theorem exists_idle (l : Lexer) (input : String) :
    ∃ n ≤ input.length, ((l.lex input).after n).pull.outcome.Idle := by
  by_contra! h
  have hle := add_length_le l input (input.length + 1) fun i hi => h i (by omega)
  omega

def Outcome.Adds (l : Lexer) (before after : Stats) : Outcome → Prop
  | .finished => after = before
  | .failed _ =>
    after = { before with attempts := before.attempts + (l.ignored.length + l.rules.length) }
  | .token _ _ => after.tokens = before.tokens + 1 ∧ after.ignored = before.ignored

structure Stream.Repeats (s : Stream) (o : Outcome) : Prop where
  skipped : s.pull.skipped = []
  outcome : s.pull.outcome = o
  cursor : s.pull.stream.cursor = s.cursor
  stats : o.Adds s.lexer s.stats s.pull.stream.stats

section Repeats

variable {s : Stream}

theorem repeats_of_end (hend : s.cursor.after = []) : s.Repeats .finished := by
  have hpull := Stream.pull_of_end hend
  exact ⟨by rw [hpull], by rw [hpull], by rw [hpull], by rw [hpull]; rfl⟩

variable (hmore : s.cursor.after ≠ [])
  (hrest : (Rule.tryInOrder (0 < ·) s.cursor s.lexer.ignored).hit = none)

include hmore hrest

/-- An empty token leaves the stream where the same rule takes the same again. -/
theorem repeats_of_hit {r : Rule}
    (hhit : (Rule.tryInOrder (fun _ => true) s.cursor s.lexer.rules).hit = some (r, 0)) :
    s.Repeats (.token ⟨r.name, (s.cursor.lexeme 0).text, some s.cursor.position⟩
      (s.cursor.lexeme 0)) := by
  have hpull := Stream.pull_of_hit hmore hrest hhit
  exact ⟨by rw [hpull], by rw [hpull], by rw [hpull]; rfl, by rw [hpull]; exact ⟨rfl, rfl⟩⟩

theorem repeats_of_none
    (hnone : (Rule.tryInOrder (fun _ => true) s.cursor s.lexer.rules).hit = none) :
    s.Repeats (.failed ⟨"", ⟨s.cursor.index, s.cursor.line, s.column⟩⟩) := by
  have hpull := Stream.pull_of_none hmore hrest hnone
  rw [Rule.attempts_of_none hrest, Rule.attempts_of_none hnone] at hpull
  exact ⟨by rw [hpull], by rw [hpull], by rw [hpull]; rfl, by rw [hpull]; rfl⟩

end Repeats

/-- Where a stream rests, the stream after an idle pull differs in the counters alone, and in the
column of the last token if that is what the next pull makes again. -/
theorem repeats_of_rests {m : Stream} (hm : m.Rests) (h : m.pull.outcome.Idle) :
    m.pull.stream.Repeats m.pull.outcome := by
  by_cases hend : m.cursor.after = []
  · rw [Stream.pull_of_end hend]
    exact repeats_of_end hend
  have hrest := hm.resolve_left hend
  cases hhit : (Rule.tryInOrder (fun _ => true) m.cursor m.lexer.rules).hit with
  | some found =>
    obtain ⟨r, n⟩ := found
    have hpull := Stream.pull_of_hit hend hrest hhit
    rw [hpull] at h
    have hle : n ≤ m.cursor.after.length :=
      r.matcher.length_le (Rule.of_tryInOrder_hit hhit).2.1
    obtain rfl : n = 0 := (text_lexeme_eq_empty hle).1 h
    rw [hpull]
    apply repeats_of_hit
    · exact hend
    · exact hrest
    · exact hhit
  | none =>
    rw [Stream.pull_of_none hend hrest hhit]
    apply repeats_of_none
    · exact hend
    · exact hrest
    · exact hhit

theorem repeats_of_idle {s : Stream} (h : s.pull.outcome.Idle) :
    s.pull.stream.Repeats s.pull.outcome := by
  obtain ⟨m, hm, -, hresult⟩ := exists_rests s
  obtain ⟨houtcome, hstream⟩ := Prod.mk.inj hresult
  rw [houtcome] at h ⊢
  rw [hstream]
  exact repeats_of_rests hm h

/-- Every pull comes to an end, and among as many pulls as the input has characters, and one, there
is one that is idle. From an idle pull on every pull reads nothing, comes to the same and adds the
same to the counters. -/
theorem streams_settle (l : Lexer) (input : String) :
    let s := (l.lex input).after
    (∀ n, ∃ k, Passes l.ignored (s n).cursor (s n).pull.skipped k ∧
      Comes (s n) k (s n).pull.outcome (s (n + 1)).cursor ∧
      (∀ x ∈ (s n).pull.skipped, x.text ≠ "") ∧
      (s n).pull.skipped.length + k.after.length ≤ (s n).cursor.after.length) ∧
    (∃ n ≤ input.length, (s n).pull.outcome.Idle) ∧
    ∀ n, (s n).pull.outcome.Idle → ∀ m, n < m →
      (s m).Repeats (s n).pull.outcome ∧ (s m).lexer = l ∧
        (s (m + 1)).offset = (s (n + 1)).offset := by
  intro s
  refine ⟨fun n => ?_, exists_idle l input, fun n hidle m hm => ?_⟩
  · have hl : (s n).lexer = l := lexer_after (l.lex input) n
    obtain ⟨k, hpass, hcomes, -⟩ := pull_cases (s n)
    rw [hl] at hpass
    exact ⟨k, hpass, hcomes, hpass.text_ne_empty, hpass.length_add_le⟩
  · -- along with the outcome the cursor stays as the first idle pull has left it
    suffices h : (s m).Repeats (s n).pull.outcome ∧ (s m).cursor = (s (n + 1)).cursor by
      refine ⟨h.1, lexer_after (l.lex input) m, ?_⟩
      show (s m).pull.stream.cursor.offset = (s (n + 1)).cursor.offset
      rw [h.1.cursor, h.2]
    induction hm with
    | refl => exact ⟨repeats_of_idle hidle, rfl⟩
    | @step m hm ih =>
      obtain ⟨hrepeats, hcursor⟩ := ih
      have hagain : (s (m + 1)).Repeats (s m).pull.outcome :=
        repeats_of_idle (hrepeats.outcome ▸ hidle)
      exact ⟨hrepeats.outcome ▸ hagain, hrepeats.cursor.trans hcursor⟩

end FrontEnd.Lexer
