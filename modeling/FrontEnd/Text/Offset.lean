namespace FrontEnd.Text

def byteLength : List Char → Nat
  | [] => 0
  | c :: cs => c.utf8Size + byteLength cs

/-- Cuts `cs` after `n` bytes. The part before the cut is returned in reverse, on top of `before`;
nothing is returned past the end and inside a character. -/
def cutFrom (before : List Char) : Nat → List Char → Option (List Char × List Char)
  | 0, cs => some (before, cs)
  | _ + 1, [] => none
  | n + 1, c :: cs =>
    if c.utf8Size ≤ n + 1 then cutFrom (c :: before) (n + 1 - c.utf8Size) cs else none

def cutAt? (n : Nat) (cs : List Char) : Option (List Char × List Char) := cutFrom [] n cs

@[simp] theorem byteLength_append (a b : List Char) :
    byteLength (a ++ b) = byteLength a + byteLength b := by
  induction a with
  | nil => simp [byteLength]
  | cons c a ih => simp [byteLength, ih, Nat.add_assoc]

theorem cutFrom_append (before a b : List Char) :
    cutFrom before (byteLength a) (a ++ b) = some (a.reverse ++ before, b) := by
  induction a generalizing before with
  | nil => cases b <;> simp [byteLength, cutFrom]
  | cons c a ih =>
    have hc : 0 < c.utf8Size := Char.utf8Size_pos c
    obtain ⟨n, hn⟩ : ∃ n, byteLength (c :: a) = n + 1 :=
      ⟨c.utf8Size + byteLength a - 1, by simp only [byteLength]; omega⟩
    have hle : c.utf8Size ≤ n + 1 := by rw [← hn, byteLength]; omega
    have hrest : n + 1 - c.utf8Size = byteLength a := by rw [← hn, byteLength]; omega
    simp [hn, cutFrom, hle, hrest, ih]

/-- Cutting where a character begins finds the characters on both sides. -/
theorem cutAt?_append (a b : List Char) : cutAt? (byteLength a) (a ++ b) = some (a.reverse, b) := by
  simp [cutAt?, cutFrom_append]

end FrontEnd.Text
