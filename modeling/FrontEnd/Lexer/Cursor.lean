import FrontEnd.Text.Offset
import FrontEnd.Text.Position

namespace FrontEnd

/-- A stretch of an input: the byte offsets at which it begins and ends, and its text. -/
structure Lexeme where
  start : Nat
  stop : Nat
  text : String
deriving DecidableEq, Repr

structure Cursor where
  /-- The characters read so far, the latest first. -/
  before : List Char
  /-- The characters still to be read. -/
  after : List Char
  /-- The number of bytes read. -/
  offset : Nat := 0
  /-- The number of characters read. -/
  index : Nat := 0
  line : Nat := 1
  /-- The index at which the line begins. -/
  lineStart : Nat := 0
deriving DecidableEq, Repr

namespace Cursor

def ofInput (input : String) : Cursor := { before := [], after := input.toList }

def atEnd (k : Cursor) : Bool := k.after.isEmpty

def column (k : Cursor) : Nat := k.index - k.lineStart + 1

def position (k : Cursor) : Position := ⟨k.index, k.line, k.column⟩

def step (k : Cursor) : Cursor :=
  match k.after with
  | [] => k
  | c :: cs =>
    { before := c :: k.before
      after := cs
      offset := k.offset + c.utf8Size
      index := k.index + 1
      line := if c = '\n' then k.line + 1 else k.line
      lineStart := if c = '\n' then k.index + 1 else k.lineStart }

def advance (k : Cursor) : Nat → Cursor
  | 0 => k
  | n + 1 => k.step.advance n

def lexeme (k : Cursor) (n : Nat) : Lexeme :=
  ⟨k.offset, (k.advance n).offset, .ofList (k.after.take n)⟩

theorem after_step (k : Cursor) : k.step.after = k.after.tail := by
  unfold step
  split <;> simp_all

theorem after_advance (k : Cursor) (n : Nat) : (k.advance n).after = k.after.drop n := by
  induction n generalizing k with
  | zero => simp [advance]
  | succ n ih => simp [advance, ih, after_step]

theorem length_after_advance_lt (k : Cursor) {n : Nat} (hn : 0 < n) (hk : k.after ≠ []) :
    (k.advance n).after.length < k.after.length := by
  rw [after_advance, List.length_drop]
  have := List.length_pos_iff.2 hk
  omega

end Cursor
end FrontEnd
