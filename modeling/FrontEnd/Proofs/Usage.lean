import FrontEnd.Proofs.Numbering

namespace FrontEnd.Grammar

variable {α : Type}

/-! ### What productions use -/

def usesIn (rules : List (Production α)) (x : String) : List Nat :=
  rules.flatMap fun p => List.replicate (p.symbols.count x) p.number

section UsesIn

variable {rules : List (Production α)} {x : String}

theorem mem_usesIn {n : Nat} : n ∈ usesIn rules x ↔ ∃ p ∈ rules, x ∈ p.symbols ∧ p.number = n := by
  unfold usesIn
  rw [List.mem_flatMap]
  apply exists_congr
  intro p
  rw [List.mem_replicate, ← Nat.pos_iff_ne_zero, List.count_pos_iff, eq_comm]

theorem count_usesIn (h : (rules.map Production.number).Nodup) {p : Production α} (hp : p ∈ rules) :
    (usesIn rules x).count p.number = p.symbols.count x := by
  induction rules with
  | nil => contradiction
  | cons q rules ih =>
    rw [List.map_cons, List.nodup_cons] at h
    have hcons : usesIn (q :: rules) x =
        List.replicate (q.symbols.count x) q.number ++ usesIn rules x := rfl
    rw [hcons, List.count_append, List.count_replicate]
    rcases List.mem_cons.1 hp with rfl | hp
    · have hrest : (usesIn rules x).count p.number = 0 := by
        apply List.count_eq_zero.2
        intro hmem
        obtain ⟨r, hr, -, hnumber⟩ := mem_usesIn.1 hmem
        exact h.1 (hnumber ▸ List.mem_map_of_mem hr)
      simp [hrest]
    · have hne : q.number ≠ p.number := fun he => h.1 (he ▸ List.mem_map_of_mem hp)
      simp [hne, ih h.2 hp]

theorem pairwise_usesIn (h : (rules.map Production.number).Pairwise (· < ·)) :
    (usesIn rules x).Pairwise (· ≤ ·) := by
  unfold usesIn
  rw [List.pairwise_flatMap]
  constructor
  · intro p _
    simp
  · apply (List.pairwise_map.1 h).imp
    intro p q hlt m hm n hn
    rw [(List.mem_replicate.1 hm).2, (List.mem_replicate.1 hn).2]
    exact Nat.le_of_lt hlt

end UsesIn

/-! ### What tables list -/

/-- Each symbol has in its table the uses that productions make of it; only those by production 0
come to them. -/
structure UsesListed (g : Grammar α) : Prop where
  terminals : ∀ x, g.isTerminal x = true → g.terminals.usesOf x = usesIn g.rules x
  nonterminals : ∀ x, g.isTerminal x = false →
    (g.nonterminals.usesOf x).filter (· ≠ 0) = usesIn g.rules x

namespace UsesListed

variable {g g' : Grammar α} (hg : UsesListed g)

include hg

theorem of_same (hs : Same g g') (hterminals : g'.terminals = g.terminals)
    (hnonterminals : ∀ x, (g'.nonterminals.usesOf x).filter (· ≠ 0) =
      (g.nonterminals.usesOf x).filter (· ≠ 0)) : UsesListed g' := by
  have hrules (x : String) : usesIn g'.rules x = usesIn g.rules x := by
    unfold usesIn
    rw [List.flatMap_def, List.flatMap_def, hs.map_rules _ fun _ => rfl]
  constructor
  · intro x hx
    rw [hs.isTerminal] at hx
    rw [hterminals, hrules]
    exact hg.terminals x hx
  · intro x hx
    rw [hs.isTerminal] at hx
    rw [hnonterminals, hrules]
    exact hg.nonterminals x hx

theorem added (name : String) (symbols : List String) (action : Option α)
    (precedence : Precedence) : UsesListed (g.added name symbols action precedence) := by
  have hrules (x : String) : usesIn (g.added name symbols action precedence).rules x =
      usesIn g.rules x ++ List.replicate (symbols.count x) (g.rules.length + 1) := by
    unfold usesIn Grammar.added
    rw [List.flatMap_append, List.flatMap_singleton]
  constructor
  · intro x hx
    rw [isTerminal_added] at hx
    rw [hrules, ← hg.terminals x hx, Grammar.added, SymbolTable.usesOf_recordAll,
      List.count_filter hx]
  · intro x hx
    rw [isTerminal_added] at hx
    rw [hrules, ← hg.nonterminals x hx, Grammar.added, SymbolTable.usesOf_recordAll,
      SymbolTable.usesOf_add, List.count_filter (by simp [hx]), List.filter_append]
    simp

theorem augmentedWith (h : WellFormed g) {p : Production α} (hp : p ∈ g.rules) :
    UsesListed (g.augmentedWith p) := by
  apply hg.of_same (same_augmentedWith h hp) rfl
  intro x
  simp only [Grammar.augmentedWith]
  split
  · rfl
  · rw [SymbolTable.usesOf_record, List.filter_append]
    split <;> simp

theorem change (h : WellFormed g) (hc : Change g g') : UsesListed g' := by
  cases hc with
  | unchanged | declared | first | follow => exact ⟨hg.terminals, hg.nonterminals⟩
  | added => exact hg.added ..
  | augmented hrules => exact hg.augmentedWith h (hrules ▸ List.mem_cons_self)
  | items => exact hg.of_same (same_buildItems g) rfl fun _ => rfl
  | lookaheads hitem =>
    have heq := editLookaheads_eq_some hitem
    apply hg.of_same (same_editLookaheads hitem).1
    · rw [heq]
    · intro x
      rw [heq]

end UsesListed

theorem usesListed_performAll (names : List String) (calls : List (Call α)) :
    UsesListed ((ofTerminals names : Grammar α).performAll calls) := by
  have hbegin : UsesListed (ofTerminals names : Grammar α) := by
    refine ⟨fun x _ => ?_, fun x _ => rfl⟩
    show ((SymbolTable.ofList names).add errorName).2.usesOf x = []
    rw [SymbolTable.usesOf_add, SymbolTable.usesOf_ofList]
  exact (wellFormed_ofTerminals names).performAll_induction
    (fun _ _ h hc hg => hg.change h hc) hbegin calls

/-! ### What a list of uses says -/

section Listed

variable {g : Grammar α} (h : WellFormed g)

include h

theorem WellFormed.ne_zero_of_mem_usesIn {x : String} {n : Nat} (hn : n ∈ usesIn g.rules x) :
    n ≠ 0 := by
  obtain ⟨p, hp, -, rfl⟩ := mem_usesIn.1 hn
  obtain ⟨m, hm⟩ := h.mem_rules_iff.1 hp
  rw [(h.number_eq hm).2]
  omega

/-- Either table lists for its symbols what productions use, and production 0 for the start
symbol. -/
theorem UsesListed.of_mem_names (hg : UsesListed g) (hused : StartUsed g) {t : SymbolTable}
    (ht : t = g.terminals ∨ t = g.nonterminals) {x : String} (hx : x ∈ t.names) :
    (t.usesOf x).filter (· ≠ 0) = usesIn g.rules x ∧
      (t.usesOf x).count 0 = if g.start = some x then 1 else 0 := by
  rcases ht with rfl | rfl
  · have hterm : g.isTerminal x = true := isTerminal_iff.2 hx
    have hne : ∀ n ∈ usesIn g.rules x, n ≠ 0 := fun n => h.ne_zero_of_mem_usesIn
    rw [hg.terminals x hterm]
    constructor
    · apply List.filter_eq_self.2
      simpa using hne
    · -- the start symbol is no terminal
      have hstart : g.start ≠ some x := by
        intro hs
        rw [h.isTerminal_eq_false (h.isNonterminal_start hs)] at hterm
        contradiction
      rw [if_neg hstart, List.count_eq_zero]
      exact fun hzero => hne 0 hzero rfl
  · have hnonterm : g.isTerminal x = false := h.isTerminal_eq_false (isNonterminal_iff.2 hx)
    exact ⟨hg.nonterminals x hnonterm, hused x⟩

variable {x : String} {uses : List Nat} (huses : uses.filter (· ≠ 0) = usesIn g.rules x)

include huses

theorem count_succ_of_filter {n : Nat} {p : Production α} (hp : g.production? (n + 1) = some p) :
    uses.count (n + 1) = p.symbols.count x := by
  obtain ⟨hmem, hnumber⟩ := h.number_eq hp
  have hnodup : (g.rules.map Production.number).Nodup :=
    h.pairwise_number.imp fun hlt => Nat.ne_of_lt hlt
  calc uses.count (n + 1) = (uses.filter (· ≠ 0)).count (n + 1) :=
        (List.count_filter (by simp)).symm
    _ = (usesIn g.rules x).count p.number := by rw [huses, hnumber]
    _ = p.symbols.count x := count_usesIn hnodup hmem

theorem isSome_production?_of_filter {n : Nat} (hn : n ∈ uses) (hne : n ≠ 0) :
    (g.production? n).isSome = true := by
  have hmem : n ∈ usesIn g.rules x := huses ▸ List.mem_filter.2 ⟨hn, by simpa using hne⟩
  obtain ⟨p, hp, -, rfl⟩ := mem_usesIn.1 hmem
  rw [h.production?_number hp]
  rfl

end Listed

/-- After any calls, the table of a symbol lists each production from number 1 on as often as the
symbol occurs in its right-hand side, and in the order of the numbers. Production 0 is listed once
for the start symbol if a call has set it, and for no other, and nothing else is listed. -/
theorem uses_counted (names : List String) (calls : List (Call α)) :
    let g := (ofTerminals names : Grammar α).performAll calls
    let started := (ofTerminals names : Grammar α).SetsStart calls
    ∀ t, t = g.terminals ∨ t = g.nonterminals → ∀ x ∈ t.names, ∃ uses, t.uses? x = some uses ∧
      (∀ n p, g.production? (n + 1) = some p → uses.count (n + 1) = p.symbols.count x) ∧
      (started ∧ g.start = some x → uses.count 0 = 1) ∧
      (¬ (started ∧ g.start = some x) → uses.count 0 = 0) ∧
      (∀ n ∈ uses, (g.production? n).isSome = true) ∧
      (uses.filter (· ≠ 0)).Pairwise (· ≤ ·) := by
  intro g started t ht x hx
  have h : WellFormed g := wellFormed_performAll names calls
  have hlisted : UsesListed g := usesListed_performAll names calls
  have hused : StartUsed g := startUsed_performAll names calls
  have hheaded : Headed g := headed_performAll names calls
  have hstarted : g.start.isSome = true ↔ started := by
    rw [isSome_start_performAll]
    simp [ofTerminals, started]
  obtain ⟨hfilter, hzero⟩ := hlisted.of_mem_names h hused ht hx
  refine ⟨t.usesOf x, SymbolTable.uses?_of_mem hx, fun n p hp => count_succ_of_filter h hfilter hp,
    fun hs => ?_, fun hs => ?_, fun n hn => ?_, ?_⟩
  · rw [hzero, if_pos hs.2]
  · rw [hzero, if_neg]
    intro hstart
    exact hs ⟨hstarted.1 (by rw [hstart]; rfl), hstart⟩
  · cases n with
    | zero =>
      -- what is listed has been counted, so the start symbol is set
      have hstart : g.start = some x := by
        by_contra hne
        rw [if_neg hne, List.count_eq_zero] at hzero
        exact hzero hn
      show g.augmented.isSome = true
      rw [hheaded.isSome_augmented, hstart]
      rfl
    | succ n => exact isSome_production?_of_filter h hfilter hn (Nat.succ_ne_zero n)
  · rw [hfilter]
    exact pairwise_usesIn h.pairwise_number

/-- The start symbol is set twice, between and after additions that use it. -/
theorem uses_counted_recursive :
    let calls : List (Call Unit) := [.augment, .addProduction "s" ["s", "A", "s"] none none,
      .augment, .addProduction "a" ["s"] none none, .augment]
    let g := (ofTerminals ["A"]).performAll calls
    (g.nonterminals = g.terminals ∨ g.nonterminals = g.nonterminals) ∧
      "s" ∈ g.nonterminals.names ∧ ∃ uses, g.nonterminals.uses? "s" = some uses ∧
        uses.count 0 = 1 ∧ uses.count 1 = 2 ∧ uses.count 2 = 1 ∧
        (uses.filter (· ≠ 0)).Pairwise (· ≤ ·) := by
  intro calls g
  have hs : "s" ∈ g.nonterminals.names := by decide
  have hstarted : (ofTerminals ["A"]).SetsStart calls :=
    ⟨[.augment, .addProduction "s" ["s", "A", "s"] none none],
      [.addProduction "a" ["s"] none none, .augment], rfl, by decide⟩
  obtain ⟨uses, huses, hcount, hstart, -, -, hsorted⟩ :=
    uses_counted ["A"] calls g.nonterminals (.inr rfl) "s" hs
  exact ⟨.inr rfl, hs, uses, huses, hstart ⟨hstarted, rfl⟩, hcount 0 _ rfl, hcount 1 _ rfl, hsorted⟩

end FrontEnd.Grammar
