import FrontEnd.Proofs.WellFormed

namespace FrontEnd

namespace SymbolTable

theorem usesOf_recordAll (t : SymbolTable) (symbols : List String) (x : String) (k : Nat) :
    (t.recordAll symbols k).usesOf x = t.usesOf x ++ List.replicate (symbols.count x) k := by
  induction symbols generalizing t with
  | nil => simp [recordAll]
  | cons s symbols ih =>
    have hcons : t.recordAll (s :: symbols) k = (t.record s k).recordAll symbols k := rfl
    rw [hcons, ih, usesOf_record, List.count_cons, List.append_assoc]
    by_cases hx : x = s
    · simp [hx, List.replicate_succ]
    · simp [hx, Ne.symm hx]

def timesUsed (t : SymbolTable) (symbol : String) (production : Nat) : Nat :=
  ((t.uses? symbol).getD []).count production

theorem timesUsed_eq (t : SymbolTable) (x : String) (n : Nat) :
    t.timesUsed x n = (t.usesOf x).count n := rfl

theorem timesUsed_add (t : SymbolTable) (s x : String) (n : Nat) :
    (t.add s).2.timesUsed x n = t.timesUsed x n := by
  rw [timesUsed_eq, usesOf_add, timesUsed_eq]

theorem timesUsed_record (t : SymbolTable) (s x : String) (k n : Nat) :
    (t.record s k).timesUsed x n = t.timesUsed x n + if x = s ∧ n = k then 1 else 0 := by
  rw [timesUsed_eq, usesOf_record, List.count_append, timesUsed_eq]
  by_cases hx : x = s
  · by_cases hn : n = k
    · simp [hx, hn]
    · simp [hx, hn, Ne.symm hn]
  · simp [hx]

theorem timesUsed_recordAll (t : SymbolTable) (symbols : List String) (x : String) (k n : Nat) :
    (t.recordAll symbols k).timesUsed x n =
      t.timesUsed x n + if n = k then symbols.count x else 0 := by
  rw [timesUsed_eq, usesOf_recordAll, List.count_append, List.count_replicate, timesUsed_eq]
  by_cases hn : n = k
  · simp [hn]
  · simp [hn, Ne.symm hn]

theorem any_contains_iff {t : SymbolTable} {x : String} {n : Nat} :
    (t.uses? x).any (·.contains n) = true ↔ 0 < t.timesUsed x n := by
  rw [timesUsed, List.count_pos_iff]
  cases t.uses? x <;> simp

end SymbolTable

namespace Grammar

variable {α : Type}

/-- Production 0 is a use of the start symbol if that is set, and of nothing else. -/
def StartUsed (g : Grammar α) : Prop :=
  ∀ x, g.nonterminals.timesUsed x 0 = if g.start = some x then 1 else 0

theorem timesUsed_added {g : Grammar α} {name : String} {symbols : List String}
    {action : Option α} {precedence : Precedence} (x : String) (n : Nat) :
    (g.added name symbols action precedence).nonterminals.timesUsed x n =
      g.nonterminals.timesUsed x n +
        if n = g.rules.length + 1 then (symbols.filter (!g.isTerminal ·)).count x else 0 := by
  rw [added, SymbolTable.timesUsed_recordAll, SymbolTable.timesUsed_add]

theorem StartUsed.augmentedWith {g : Grammar α} (hg : StartUsed g) (h : WellFormed g)
    {p : Production α} {rest : List (Production α)} (hrules : g.rules = p :: rest) :
    StartUsed (g.augmentedWith p) := by
  have hstart : g.start = none ∨ g.start = some p.name := by
    cases hs : g.start with
    | none => exact .inl rfl
    | some s =>
      have hname := h.started s hs
      rw [hrules] at hname
      exact .inr hname.symm
  intro x
  have hx := hg x
  simp only [Grammar.augmentedWith]
  rcases hstart with hs | hs
  · -- not set before, so not yet used
    have hnot : ¬ (g.nonterminals.uses? p.name).any (·.contains 0) = true := by
      rw [SymbolTable.any_contains_iff, hg p.name, hs]
      simp
    rw [if_neg hnot, SymbolTable.timesUsed_record, hx, hs]
    simp [eq_comm]
  · -- set before, and to the same symbol, so the use is not recorded again
    have hused : (g.nonterminals.uses? p.name).any (·.contains 0) = true := by
      rw [SymbolTable.any_contains_iff, hg p.name, hs]
      simp
    rw [if_pos hused, hx]
    simp [hs]

theorem StartUsed.change {g g' : Grammar α} (hg : StartUsed g) (h : WellFormed g)
    (hc : Change g g') : StartUsed g' := by
  cases hc with
  | unchanged | declared | first | follow | items => exact hg
  | added =>
    -- the numbers of productions that are added begin at 1
    intro x
    rw [timesUsed_added, if_neg (Nat.succ_ne_zero _).symm]
    exact hg x
  | augmented hrules => exact hg.augmentedWith h hrules
  | lookaheads hitem =>
    rw [editLookaheads_eq_some hitem]
    exact hg

theorem startUsed_performAll (names : List String) (calls : List (Call α)) :
    StartUsed ((ofTerminals names : Grammar α).performAll calls) :=
  (wellFormed_ofTerminals names).performAll_induction (P := StartUsed)
    (fun _ _ h hc hg => hg.change h hc) (fun _ => rfl) calls

end Grammar
end FrontEnd
