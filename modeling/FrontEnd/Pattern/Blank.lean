import FrontEnd.Unicode.Property

namespace FrontEnd.Pattern

def isBlank (c : Char) : Bool := Unicode.PropertyTable.whiteSpace.contains c

def dropBlanks (inComment : Bool) : List Char → List Char
  | [] => []
  | c :: cs =>
    if inComment then dropBlanks (c != '\n') cs
    else if isBlank c then dropBlanks false cs
    else if c = '#' then dropBlanks true cs
    else c :: cs

/-- What follows the blanks, where the flag says that blanks are ignored. The readers of signs take
this flag as `x`. -/
def skip (ignoring : Bool) (cs : List Char) : List Char :=
  if ignoring then dropBlanks false cs else cs

theorem length_dropBlanks_le (b : Bool) (cs : List Char) :
    (dropBlanks b cs).length ≤ cs.length := by
  induction cs generalizing b with
  | nil => simp [dropBlanks]
  | cons c cs ih =>
    simp only [dropBlanks]
    split
    · exact Nat.le_trans (ih _) (by simp)
    · split
      · exact Nat.le_trans (ih _) (by simp)
      · split
        · exact Nat.le_trans (ih _) (by simp)
        · exact Nat.le_refl _

theorem length_skip_le (ignoring : Bool) (cs : List Char) :
    (skip ignoring cs).length ≤ cs.length := by
  unfold skip
  split
  · exact length_dropBlanks_le false cs
  · exact Nat.le_refl _

/-- The longest run of characters with `p`, which ignored blanks may interrupt, and what follows
the blanks after it. -/
def takeSpaced (x : Bool) (p : Char → Bool) : List Char → List Char × List Char
  | [] => ([], [])
  | c :: cs =>
    if p c then
      let (taken, rest) := takeSpaced x p (skip x cs)
      (c :: taken, rest)
    else ([], c :: cs)
termination_by cs => cs.length
decreasing_by exact Nat.lt_succ_of_le (length_skip_le x cs)

end FrontEnd.Pattern
