import FrontEnd.Lexer.Rule

namespace FrontEnd

namespace Text

theorem eq_of_byteLength_eq {a b a' b' : List Char} (h : a ++ b = a' ++ b')
    (hlen : byteLength a = byteLength a') : a = a' ∧ b = b' := by
  have hcut := cutAt?_append a b
  rw [h, hlen, cutAt?_append] at hcut
  simp only [Option.some.injEq, Prod.mk.injEq, List.reverse_inj] at hcut
  exact ⟨hcut.1.symm, hcut.2.symm⟩

theorem byteLength_eq_zero {cs : List Char} : byteLength cs = 0 ↔ cs = [] := by
  cases cs with
  | nil => simp [byteLength]
  | cons c cs =>
    have := Char.utf8Size_pos c
    simp only [byteLength, reduceCtorEq, iff_false]
    omega

end Text

/-- The position behind a text: a line begins behind each line feed. -/
def Position.behind (text : List Char) : Position :=
  ⟨text.length, 1 + text.count '\n', 1 + (text.reverse.takeWhile (· != '\n')).length⟩

namespace Cursor

/-- All that a cursor says of its place in an input is true. -/
structure Sound (input : String) (k : Cursor) : Prop where
  text : k.before.reverse ++ k.after = input.toList
  offset : k.offset = Text.byteLength k.before.reverse
  index : k.index = k.before.length
  line : k.line = 1 + k.before.count '\n'
  /-- The characters from the beginning of the line on are those since the last line feed. -/
  lineStart : k.lineStart + (k.before.takeWhile (· != '\n')).length = k.index

theorem sound_ofInput (input : String) : Sound input (ofInput input) :=
  ⟨rfl, rfl, rfl, rfl, rfl⟩

section Sound

variable {input : String} {k : Cursor} (hk : Sound input k)

include hk

theorem Sound.step : Sound input k.step := by
  unfold Cursor.step
  split
  · exact hk
  · rename_i c cs hafter
    have htext := hk.text
    have hoffset := hk.offset
    have hindex := hk.index
    have hline := hk.line
    have hstart := hk.lineStart
    rw [hafter] at htext
    refine ⟨by simpa using htext, ?_, by simp [hindex], ?_, ?_⟩
    · simp [hoffset, Text.byteLength]
    · by_cases hc : c = '\n'
      · simp [hc, hline, Nat.add_assoc]
      · simp [hc, hline]
    · -- behind a line feed nothing is counted yet, and any other character is one more
      by_cases hc : c = '\n'
      · simp [hc]
      · have hne : (c != '\n') = true := bne_iff_ne.2 hc
        simp only [if_neg hc, List.takeWhile_cons, hne, if_true, List.length_cons]
        omega

theorem Sound.advance (n : Nat) : Sound input (k.advance n) := by
  induction n generalizing k with
  | zero => exact hk
  | succ n ih => exact ih hk.step

theorem Sound.lineStart_le : k.lineStart ≤ k.index :=
  hk.lineStart ▸ Nat.le_add_right ..

theorem Sound.position_eq : k.position = Position.behind k.before.reverse := by
  have hcolumn : k.column = 1 + (k.before.takeWhile (· != '\n')).length := by
    have := hk.lineStart
    rw [column]
    omega
  simp [position, Position.behind, hk.index, hk.line, hcolumn]

theorem Sound.offset_eq_iff : k.offset = Text.byteLength input.toList ↔ k.after = [] := by
  rw [hk.offset, ← hk.text, Text.byteLength_append, ← Text.byteLength_eq_zero]
  omega

theorem Sound.offset_le : k.offset ≤ Text.byteLength input.toList := by
  rw [hk.offset, ← hk.text, Text.byteLength_append]
  exact Nat.le_add_right ..

end Sound

theorem before_advance (k : Cursor) (n : Nat) :
    (k.advance n).before = (k.after.take n).reverse ++ k.before := by
  induction n generalizing k with
  | zero => simp [advance]
  | succ n ih =>
    rw [advance, ih, step]
    split
    · rename_i h
      simp [h]
    · rename_i h
      simp [h]

theorem index_advance (k : Cursor) (n : Nat) :
    (k.advance n).index = k.index + (k.after.take n).length := by
  induction n generalizing k with
  | zero => rfl
  | succ n ih =>
    rw [advance, ih, step]
    split
    · rename_i h
      simp [h]
    · rename_i h
      simp only [h, List.take_succ_cons, List.length_cons]
      omega

theorem Sound.offset_advance {input : String} {k : Cursor} (hk : Sound input k) (n : Nat) :
    (k.advance n).offset = k.offset + Text.byteLength (k.after.take n) := by
  rw [(hk.advance n).offset, hk.offset, before_advance, List.reverse_append, List.reverse_reverse,
    Text.byteLength_append]

end Cursor

def Lexeme.In (input : String) (x : Lexeme) : Prop :=
  ∃ pre post, input.toList = pre ++ x.text.toList ++ post ∧ Text.byteLength pre = x.start ∧
    Text.byteLength (pre ++ x.text.toList) = x.stop

theorem Cursor.Sound.lexeme_in {input : String} {k : Cursor} (hk : k.Sound input) (n : Nat) :
    (k.lexeme n).In input := by
  refine ⟨k.before.reverse, k.after.drop n, ?_, hk.offset.symm, ?_⟩
  · simp [Cursor.lexeme, hk.text]
  · rw [Text.byteLength_append, ← hk.offset, Cursor.lexeme, String.toList_ofList]
    exact (hk.offset_advance n).symm

theorem Lexeme.In.text_eq {input : String} {x y : Lexeme} (hx : x.In input) (hy : y.In input)
    (hstart : x.start = y.start) (hstop : x.stop = y.stop) : x = y := by
  obtain ⟨pre, post, hinput, hpre, hall⟩ := hx
  obtain ⟨pre', post', hinput', hpre', hall'⟩ := hy
  have hsame : pre ++ x.text.toList = pre' ++ y.text.toList :=
    (Text.eq_of_byteLength_eq (hinput.symm.trans hinput') (by omega)).1
  have htext := (Text.eq_of_byteLength_eq hsame (by omega)).2
  cases x
  cases y
  simp_all [String.toList_inj]

def Cursor.span (k : Cursor) (n : Nat) : Span := ⟨k.offset, (k.advance n).offset⟩

namespace Rule

section Match

variable {input : String} {k : Cursor} (hk : k.Sound input)

include hk

/-- At the place of a cursor a rule matches what the cursor would move over. -/
theorem match?_offset (r : Rule) :
    r.match? input k.offset = (r.lengthAt? k).map k.span := by
  have hcut : Text.cutAt? k.offset input.toList = some (k.before, k.after) := by
    rw [hk.offset, ← hk.text, Text.cutAt?_append, List.reverse_reverse]
  rw [match?, hcut, lengthAt?]
  cases hn : r.matcher.length? k.before k.after with
  | none => simp [hn]
  | some n => simp [hn, Cursor.span, hk.offset_advance]

theorem span_lt_iff {r : Rule} {n : Nat} (hn : r.lengthAt? k = some n) :
    (k.span n).start < (k.span n).stop ↔ 0 < n := by
  have hle : n ≤ k.after.length := r.matcher.length_le hn
  -- within the text that is left, no characters and no bytes are the same
  rw [Cursor.span, hk.offset_advance, Nat.lt_add_right_iff_pos, Nat.pos_iff_ne_zero,
    Nat.pos_iff_ne_zero, ne_eq, ne_eq, Text.byteLength_eq_zero, List.take_eq_nil_iff,
    ← List.length_eq_zero_iff]
  omega

end Match

end Rule

namespace Lexer

def only (c : Char) : Matcher where
  length? _ after := if after.head? = some c then some 1 else none
  length_le := by
    intro _ after n h
    cases after with
    | nil => simp at h
    | cons d after =>
      obtain ⟨-, rfl⟩ : d = c ∧ 1 = n := by simpa using h
      simp

theorem match?_only {name input : String} {c : Char} {offset : Nat} {m : Span}
    (h : Rule.match? ⟨name, only c⟩ input offset = some m) : m.start < m.stop := by
  simp only [Rule.match?, only, Option.bind_eq_bind, Option.bind_eq_some_iff, Option.pure_def,
    Option.some.injEq, Prod.exists, Option.ite_none_right_eq_some] at h
  obtain ⟨before, after, -, n, ⟨hhead, rfl⟩, rfl⟩ := h
  obtain ⟨after, rfl⟩ := List.head?_eq_some_iff.1 hhead
  have := Char.utf8Size_pos c
  simp [Text.byteLength, this]

end Lexer

end FrontEnd
