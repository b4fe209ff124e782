import FrontEnd.Error
import FrontEnd.Lexer.Cursor
import FrontEnd.Pattern.Basic

namespace FrontEnd

structure Span where
  start : Nat
  stop : Nat
deriving DecidableEq, Repr

/-- A way to match at a place of a text: by what comes before the place, latest character first,
and what comes after it, so many characters are taken, or none match. -/
structure Matcher where
  length? : (before after : List Char) → Option Nat
  /-- No more is taken than there is. -/
  length_le : ∀ {before after n}, length? before after = some n → n ≤ after.length

/-- A pattern sees one character of what comes before. -/
def Pattern.matcher (p : Pattern) : Matcher where
  length? before after := p.matchLength? before.head? after
  length_le := Pattern.Program.matchLength?_le_length

structure Rule where
  name : String
  matcher : Matcher

namespace Rule

def compile (name pattern : String) (flags : Pattern.Flags) : Except BuildError Rule :=
  match Pattern.compile flags pattern with
  | .ok p => .ok ⟨name, p.matcher⟩
  | .error refusal => .error (.invalidPattern pattern refusal.message)

def lengthAt? (r : Rule) (k : Cursor) : Option Nat := r.matcher.length? k.before k.after

/-- The match of a rule at a byte offset. There is none past the end of the input, and none where
no character begins. -/
def match? (r : Rule) (input : String) (offset : Nat) : Option Span := do
  let (before, after) ← Text.cutAt? offset input.toList
  let n ← r.matcher.length? before after
  return ⟨offset, offset + Text.byteLength (after.take n)⟩

/-- What comes of trying rules: how many were tried, and the one that matched with the number of
characters that it takes. -/
structure Trial where
  attempts : Nat
  hit : Option (Rule × Nat)

def tryInOrder (p : Nat → Bool) (k : Cursor) : List Rule → Trial
  | [] => ⟨0, none⟩
  | r :: rs =>
    match (r.lengthAt? k).filter p with
    | some n => ⟨1, some (r, n)⟩
    | none =>
      let t := tryInOrder p k rs
      ⟨t.attempts + 1, t.hit⟩

theorem of_tryInOrder_hit {p : Nat → Bool} {k : Cursor} {rs : List Rule} {r : Rule} {n : Nat}
    (h : (tryInOrder p k rs).hit = some (r, n)) : r ∈ rs ∧ r.lengthAt? k = some n ∧ p n := by
  induction rs with
  | nil => simp [tryInOrder] at h
  | cons r' rs ih =>
    unfold tryInOrder at h
    split at h
    · rename_i m hm
      simp only [Option.some.injEq, Prod.mk.injEq] at h
      obtain ⟨rfl, rfl⟩ := h
      rw [Option.filter_eq_some_iff] at hm
      exact ⟨by simp, hm⟩
    · obtain ⟨hr, h'⟩ := ih h
      exact ⟨List.mem_cons_of_mem _ hr, h'⟩

end Rule
end FrontEnd
