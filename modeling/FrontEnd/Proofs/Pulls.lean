import FrontEnd.Lexer.Stream
import FrontEnd.Proofs.Places

namespace FrontEnd

namespace Rule

variable {β γ : Type}

/-- The first rule for which `f` has something with `P`. -/
inductive First (f : Rule → Option β) (P : β → Prop) : List Rule → Rule → β → Prop where
  | here {r rest b} (hr : f r = some b) (hb : P b) : First f P (r :: rest) r b
  | later {r' rest r b} (hskip : ∀ b', f r' = some b' → ¬ P b') (h : First f P rest r b) :
      First f P (r' :: rest) r b

def Fails (f : Rule → Option β) (P : β → Prop) (rules : List Rule) : Prop :=
  ∀ r ∈ rules, ∀ b, f r = some b → ¬ P b

section First

variable {f : Rule → Option β} {P : β → Prop} {rules : List Rule} {r : Rule} {b : β}

theorem First.spec (h : First f P rules r b) : r ∈ rules ∧ f r = some b ∧ P b := by
  induction h with
  | here hr hb => exact ⟨List.mem_cons_self, hr, hb⟩
  | later _ _ ih => exact ⟨List.mem_cons_of_mem _ ih.1, ih.2⟩

theorem Fails.not_first (h : Fails f P rules) : ¬ First f P rules r b := fun hfirst =>
  h r hfirst.spec.1 b hfirst.spec.2.1 hfirst.spec.2.2

theorem First.unique {r' : Rule} {b' : β} (h : First f P rules r b) (h' : First f P rules r' b') :
    r = r' ∧ b = b' := by
  induction h with
  | here hr hb =>
    cases h' with
    | here hr' hb' => exact ⟨rfl, Option.some.inj (hr.symm.trans hr')⟩
    | later hskip h' => exact absurd hb (hskip _ hr)
  | later hskip _ ih =>
    cases h' with
    | here hr' hb' => exact absurd hb' (hskip _ hr')
    | later _ h' => exact ih h'

section Map

variable {f' : Rule → Option γ} {P' : γ → Prop} {g : β → γ} (hf : ∀ r, f' r = (f r).map g)
  (hP : ∀ r b, f r = some b → (P' (g b) ↔ P b))

include hf hP

theorem First.map (h : First f P rules r b) : First f' P' rules r (g b) := by
  induction h with
  | here hr hb => exact .here (by rw [hf, hr]; rfl) ((hP _ _ hr).2 hb)
  | later hskip _ ih =>
    refine .later (fun c hc hPc => ?_) ih
    rw [hf] at hc
    obtain ⟨b, hb, rfl⟩ := Option.map_eq_some_iff.1 hc
    exact hskip b hb ((hP _ _ hb).1 hPc)

theorem Fails.map (h : Fails f P rules) : Fails f' P' rules := by
  intro r hr c hc hPc
  rw [hf] at hc
  obtain ⟨b, hb, rfl⟩ := Option.map_eq_some_iff.1 hc
  exact h r hr b hb ((hP _ _ hb).1 hPc)

end Map

end First

section Trial

variable {p : Nat → Bool} {k : Cursor} {rules : List Rule}

theorem not_of_filter_eq_none {r : Rule} (h : (r.lengthAt? k).filter p = none) {m : Nat}
    (hm : r.lengthAt? k = some m) : ¬ p m = true := by
  intro hp
  rw [hm, Option.filter_some, if_pos hp] at h
  contradiction

/-- Trying in order hits the first rule that takes a length with `p`. -/
theorem first_of_hit {r : Rule} {n : Nat} (h : (tryInOrder p k rules).hit = some (r, n)) :
    First (lengthAt? · k) (p · = true) rules r n := by
  induction rules with
  | nil => contradiction
  | cons r' rules ih =>
    rw [tryInOrder] at h
    split at h
    · rename_i m hm
      simp only [Option.some.injEq, Prod.mk.injEq] at h
      obtain ⟨rfl, rfl⟩ := h
      rw [Option.filter_eq_some_iff] at hm
      exact .here hm.1 hm.2
    · rename_i hm
      exact .later (fun _ => not_of_filter_eq_none hm) (ih h)

theorem fails_of_hit (h : (tryInOrder p k rules).hit = none) :
    Fails (lengthAt? · k) (p · = true) rules := by
  induction rules with
  | nil => exact fun _ hr => absurd hr List.not_mem_nil
  | cons r' rules ih =>
    rw [tryInOrder] at h
    split at h
    · contradiction
    · rename_i hm
      intro r hr
      rcases List.mem_cons.1 hr with rfl | hr
      · exact fun _ => not_of_filter_eq_none hm
      · exact ih h r hr

end Trial

end Rule

namespace Lexer

/-- From one place to another, match by match: each is the first that is not empty, and at the
last place there is none. -/
inductive Passes (rules : List Rule) : Cursor → List Lexeme → Cursor → Prop where
  | rest {k} (h : Rule.Fails (Rule.lengthAt? · k) (0 < ·) rules) : Passes rules k [] k
  | pass {k r n xs k'} (h : Rule.First (Rule.lengthAt? · k) (0 < ·) rules r n)
      (more : Passes rules (k.advance n) xs k') : Passes rules k (k.lexeme n :: xs) k'

theorem passes_passOver (rules : List Rule) (k : Cursor) :
    Passes rules k (Stream.passOver rules k).1 (Stream.passOver rules k).2.1 := by
  fun_induction Stream.passOver rules k with
  | case1 k hk =>
    -- at the end only the empty text is left to match
    refine .rest fun r _ n hn => ?_
    have := r.matcher.length_le hn
    rw [hk, List.length_nil] at this
    omega
  | case2 k hk t ht =>
    have h := Rule.fails_of_hit ht
    simp only [decide_eq_true_eq] at h
    exact .rest h
  | case3 k hk t r n ht hlt more last others he ih =>
    have h := Rule.first_of_hit ht
    simp only [decide_eq_true_eq] at h
    rw [he] at ih
    exact .pass h ih

/-- What a pull comes to at the place where nothing more is passed over, and the place after it. -/
inductive Comes (s : Stream) (k : Cursor) : Outcome → Cursor → Prop where
  | finished (hend : k.after = []) : Comes s k .finished k
  | token {r n} (hmore : k.after ≠ [])
      (h : Rule.First (Rule.lengthAt? · k) (fun _ => True) s.lexer.rules r n) :
      Comes s k (.token ⟨r.name, (k.lexeme n).text, some k.position⟩ (k.lexeme n)) (k.advance n)
  | failed (hmore : k.after ≠ [])
      (h : Rule.Fails (Rule.lengthAt? · k) (fun _ => True) s.lexer.rules) :
      Comes s k (.failed ⟨"", ⟨k.index, k.line, s.column⟩⟩) k

theorem pull_cases (s : Stream) :
    ∃ k, Passes s.lexer.ignored s.cursor s.pull.skipped k ∧
      Comes s k s.pull.outcome s.pull.stream.cursor ∧ s.pull.stream.lexer = s.lexer := by
  have hpass := passes_passOver s.lexer.ignored s.cursor
  unfold Stream.pull
  generalize Stream.passOver s.lexer.ignored s.cursor = passed at hpass ⊢
  obtain ⟨skipped, k, attempts⟩ := passed
  refine ⟨k, ?_⟩
  by_cases hend : k.after = []
  · simp only [Cursor.atEnd, hend, List.isEmpty_nil, if_true, and_true]
    exact ⟨hpass, .finished hend⟩
  · simp only [Cursor.atEnd, List.isEmpty_iff, hend, if_false]
    split
    · rename_i r n hhit
      have h := Rule.first_of_hit hhit
      simp only [eq_self] at h
      exact ⟨hpass, .token hend h, rfl⟩
    · rename_i hhit
      have h := Rule.fails_of_hit hhit
      simp only [eq_self] at h
      exact ⟨hpass, .failed hend h, rfl⟩

def Stream.after (s : Stream) : Nat → Stream
  | 0 => s
  | n + 1 => (s.after n).pull.stream

def Pull.lexemes (p : Pull) : List Lexeme :=
  p.skipped ++ match p.outcome with
    | .token _ x => [x]
    | _ => []

def Stream.lexemes (s : Stream) : Nat → List Lexeme
  | 0 => []
  | n + 1 => s.lexemes n ++ (s.after n).pull.lexemes

theorem lexer_after (s : Stream) (n : Nat) : (s.after n).lexer = s.lexer := by
  induction n with
  | zero => rfl
  | succ n ih =>
    obtain ⟨k, -, -, hlexer⟩ := pull_cases (s.after n)
    exact hlexer.trans ih

theorem Passes.sound {rules : List Rule} {input : String} {k k' : Cursor} {xs : List Lexeme}
    (h : Passes rules k xs k') (hk : k.Sound input) : k'.Sound input := by
  induction h with
  | rest _ => exact hk
  | pass _ _ ih => exact ih (hk.advance _)

theorem Comes.sound {s : Stream} {input : String} {k k' : Cursor} {o : Outcome}
    (h : Comes s k o k') (hk : k.Sound input) : k'.Sound input := by
  cases h with
  | finished | failed => exact hk
  | token => exact hk.advance _

theorem sound_after (l : Lexer) (input : String) (n : Nat) :
    ((l.lex input).after n).cursor.Sound input := by
  induction n with
  | zero => exact Cursor.sound_ofInput input
  | succ n ih =>
    obtain ⟨k, hpass, hcomes, -⟩ := pull_cases ((l.lex input).after n)
    exact hcomes.sound (hpass.sound ih)

end Lexer

end FrontEnd
