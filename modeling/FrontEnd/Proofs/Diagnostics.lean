import FrontEnd.Proofs.Usage

namespace FrontEnd.Grammar

variable {α : Type}

theorem unusedIn_eq (t : SymbolTable) :
    unusedIn t = t.names.filter fun x => t.usesOf x = [] := by
  rw [unusedIn, SymbolTable.names, OrderedMap.keys, List.filter_map]
  congr 1
  apply List.filter_congr
  intro e he
  show e.2.isEmpty = decide (t.usesOf e.1 = [])
  rw [SymbolTable.usesOf_of_mem he, Bool.eq_iff_iff, List.isEmpty_iff, decide_eq_true_iff]

theorem usesIn_eq_nil_iff {rules : List (Production α)} {x : String} :
    usesIn rules x = [] ↔ ∀ p ∈ rules, x ∉ p.symbols := by
  rw [List.eq_nil_iff_forall_not_mem]
  constructor
  · intro h p hp hx
    exact h p.number (mem_usesIn.2 ⟨p, hp, hx, rfl⟩)
  · intro h n hn
    obtain ⟨p, hp, hx, -⟩ := mem_usesIn.1 hn
    exact h p hp hx

theorem Headed.forall_productions {g : Grammar α} (hg : Headed g) {x : String} :
    (∀ p ∈ g.productions, x ∉ p.symbols) ↔ g.start ≠ some x ∧ ∀ p ∈ g.rules, x ∉ p.symbols := by
  have hsymbols := hg.map_symbols
  have hzero : (∀ p ∈ g.augmented.toList, x ∉ p.symbols) ↔ g.start ≠ some x := by
    rcases ha : g.augmented with _ | p <;> rcases hs : g.start with _ | s <;>
      rw [ha, hs] at hsymbols
    · simp
    · contradiction
    · contradiction
    · have hp : p.symbols = [s] := Option.some.inj hsymbols
      simp [hp, eq_comm]
  rw [productions, List.forall_mem_append, hzero]

theorem UsesListed.usesOf_eq_nil_iff {g : Grammar α} (hg : UsesListed g) (h : WellFormed g)
    (hused : StartUsed g) {t : SymbolTable} (ht : t = g.terminals ∨ t = g.nonterminals)
    {x : String} (hx : x ∈ t.names) :
    t.usesOf x = [] ↔ g.start ≠ some x ∧ ∀ p ∈ g.rules, x ∉ p.symbols := by
  obtain ⟨hfilter, hzero⟩ := hg.of_mem_names h hused ht hx
  rw [← usesIn_eq_nil_iff, ← hfilter]
  constructor
  · intro hnil
    rw [hnil] at hzero ⊢
    refine ⟨fun hs => ?_, rfl⟩
    rw [if_pos hs] at hzero
    contradiction
  · rintro ⟨hs, hnil⟩
    rw [if_neg hs, List.count_eq_zero] at hzero
    rw [List.eq_nil_iff_forall_not_mem]
    intro n hn
    have hne : n ≠ 0 := fun he => hzero (he ▸ hn)
    have hmem : n ∈ (t.usesOf x).filter (· ≠ 0) := List.mem_filter.2 ⟨hn, decide_eq_true hne⟩
    rw [hnil] at hmem
    exact List.not_mem_nil hmem

/-- The index of definitions has an entry for each left-hand side, and no other. -/
def Indexed (g : Grammar α) : Prop :=
  ∀ x, x ∈ g.definitions.keys ↔ x ∈ g.rules.map Production.name

theorem Indexed.change {g g' : Grammar α} (hg : Indexed g) (h : WellFormed g) (hc : Change g g') :
    Indexed g' := by
  intro x
  rcases hc.same_or_added h with hs | ⟨name, symbols, action, precedence, -, rfl⟩
  · rw [hs.definitions, hs.map_rules _ fun _ => rfl]
    exact hg x
  · rw [added, List.map_append, List.mem_append, ← hg x, OrderedMap.mem_keys_iff,
      OrderedMap.mem_keys_iff, OrderedMap.get?_update]
    by_cases hx : x = name <;> simp [hx]

theorem indexed_performAll (names : List String) (calls : List (Call α)) :
    Indexed ((ofTerminals names : Grammar α).performAll calls) :=
  (wellFormed_ofTerminals names).performAll_induction (P := Indexed)
    (fun _ _ h hc hg => hg.change h hc) (fun _ => Iff.rfl) calls

theorem Indexed.undefinedNonterminals_eq {g : Grammar α} (hg : Indexed g) :
    g.undefinedNonterminals =
      g.nonterminals.names.filter fun x => ∀ p ∈ g.rules, p.name ≠ x := by
  unfold undefinedNonterminals
  apply List.filter_congr
  intro x _
  rw [Bool.eq_iff_iff, Bool.not_eq_true', OrderedMap.contains, decide_eq_false_iff_not, hg x,
    decide_eq_true_iff]
  simp

theorem WellFormed.disjoint_names {g : Grammar α} (h : WellFormed g) {x : String}
    (hterm : x ∈ g.terminals.names) : x ∉ g.nonterminals.names := by
  intro hnonterm
  have hx := h.disjoint x (isTerminal_iff.2 hterm)
  rw [isNonterminal_iff.2 hnonterm] at hx
  contradiction

section Reported

variable {g : Grammar α} (h : WellFormed g) (hlisted : UsesListed g) (hused : StartUsed g)

include h hlisted hused

theorem unusedTerminals_eq (hheaded : Headed g) :
    g.unusedTerminals =
      g.terminals.names.filter fun t => t ≠ errorName ∧ ∀ p ∈ g.productions, t ∉ p.symbols := by
  rw [unusedTerminals, unusedIn_eq, List.filter_filter]
  apply List.filter_congr
  intro t ht
  rw [Bool.eq_iff_iff, Bool.and_eq_true, bne_iff_ne, decide_eq_true_iff, decide_eq_true_iff,
    hlisted.usesOf_eq_nil_iff h hused (.inl rfl) ht, hheaded.forall_productions]

theorem unusedNonterminals_eq :
    g.unusedNonterminals =
      g.nonterminals.names.filter fun x => g.start ≠ some x ∧ ∀ p ∈ g.rules, x ∉ p.symbols := by
  rw [unusedNonterminals, unusedIn_eq]
  apply List.filter_congr
  intro x hx
  rw [Bool.eq_iff_iff, decide_eq_true_iff, decide_eq_true_iff,
    hlisted.usesOf_eq_nil_iff h hused (.inr rfl) hx]

/-- No symbol is reported twice: one that is undefined is used, and no terminal is a nonterminal. -/
theorem nodup_reported (hoccurs : ∀ x ∈ g.undefinedNonterminals, ∃ p ∈ g.rules, x ∈ p.symbols) :
    (g.unusedTerminals ++ g.unusedNonterminals ++ g.undefinedNonterminals).Nodup := by
  have hterm : g.unusedTerminals.Sublist g.terminals.names := by
    rw [unusedTerminals, unusedIn_eq]
    exact List.filter_sublist.trans List.filter_sublist
  have hnonterm : g.unusedNonterminals.Sublist g.nonterminals.names := by
    rw [unusedNonterminals, unusedIn_eq]
    exact List.filter_sublist
  have hundef : g.undefinedNonterminals.Sublist g.nonterminals.names := List.filter_sublist
  have hapart : ∀ t ∈ g.terminals.names, ∀ x ∈ g.nonterminals.names, t ≠ x := by
    rintro t ht _ hx rfl
    exact h.disjoint_names ht hx
  apply List.nodup_append.2 ⟨List.nodup_append.2 ⟨?_, ?_, ?_⟩, ?_, ?_⟩
  · exact hterm.nodup g.terminals.nodup_names
  · exact hnonterm.nodup g.nonterminals.nodup_names
  · intro t ht x hx
    exact hapart t (hterm.subset ht) x (hnonterm.subset hx)
  · exact hundef.nodup g.nonterminals.nodup_names
  · intro y hy x hx
    rcases List.mem_append.1 hy with hy | hy
    · exact hapart y (hterm.subset hy) x (hundef.subset hx)
    · rintro rfl
      rw [unusedNonterminals_eq h hlisted hused, List.mem_filter, decide_eq_true_iff] at hy
      obtain ⟨p, hp, hsymbol⟩ := hoccurs y hx
      exact hy.2.2 p hp hsymbol

end Reported

theorem level_warnings (g : Grammar α) : ∀ e ∈ g.warnings, e.record.level = .warn := by
  intro e he
  simp only [warnings, List.mem_append, List.mem_map] at he
  rcases he with (⟨x, -, rfl⟩ | ⟨x, -, rfl⟩) | ⟨x, -, rfl⟩ <;> rfl

/-- The start symbol is the left-hand side of production 1, once a call has set it. -/
theorem start_performAll_iff (names : List String) (calls : List (Call α)) (s : String) :
    let g := (ofTerminals names : Grammar α).performAll calls
    g.start = some s ↔ (ofTerminals names : Grammar α).SetsStart calls ∧
      (g.rules.map Production.name).head? = some s := by
  intro g
  have h : WellFormed g := wellFormed_performAll names calls
  have hset : g.start.isSome = true ↔ (ofTerminals names : Grammar α).SetsStart calls :=
    (isSome_start_performAll _ calls).trans (or_iff_left Bool.false_ne_true)
  constructor
  · intro hs
    exact ⟨hset.1 (by rw [hs]; rfl), h.started s hs⟩
  · rintro ⟨hcall, hhead⟩
    obtain ⟨t, ht⟩ := Option.isSome_iff_exists.1 (hset.2 hcall)
    rw [ht, ← h.started t ht, hhead]

/-- After any calls, the symbols reported unused are those on no right-hand side, the terminal for
errors and the start symbol apart, and those reported undefined are the nonterminals without a
production. No symbol is reported twice, each is warned of once, and nothing is changed. -/
theorem diagnostics_exact (names : List String) (calls : List (Call α)) :
    let g := (ofTerminals names : Grammar α).performAll calls
    let reported := g.unusedTerminals ++ g.unusedNonterminals ++ g.undefinedNonterminals
    let report := g.perform .warnUnused
    g.unusedTerminals =
      g.terminals.names.filter (fun t => t ≠ errorName ∧ ∀ p ∈ g.productions, t ∉ p.symbols) ∧
    g.unusedNonterminals =
      g.nonterminals.names.filter (fun x => g.start ≠ some x ∧ ∀ p ∈ g.rules, x ∉ p.symbols) ∧
    (∀ s, g.start = some s ↔ (ofTerminals names : Grammar α).SetsStart calls ∧
      (g.rules.map Production.name).head? = some s) ∧
    g.undefinedNonterminals =
      g.nonterminals.names.filter (fun x => ∀ p ∈ g.rules, p.name ≠ x) ∧
    (∀ x ∈ g.undefinedNonterminals, ∃ p ∈ g.rules, x ∈ p.symbols) ∧
    reported.Nodup ∧
    report.reply = .ok (.number reported.length) ∧
    report.events = g.unusedTerminals.map .unusedTerminal ++
      g.unusedNonterminals.map .unusedNonterminal ++
      g.undefinedNonterminals.map .undefinedNonterminal ∧
    (∀ e ∈ report.events, e.record.level = .warn) ∧ report.grammar = g := by
  intro g reported report
  have h : WellFormed g := wellFormed_performAll names calls
  have hlisted : UsesListed g := usesListed_performAll names calls
  have hused : StartUsed g := startUsed_performAll names calls
  have hterminals := unusedTerminals_eq h hlisted hused (headed_performAll names calls)
  have hnonterminals := unusedNonterminals_eq h hlisted hused
  have hundefined := (indexed_performAll names calls : Indexed g).undefinedNonterminals_eq
  have hoccurs : ∀ x ∈ g.undefinedNonterminals, ∃ p ∈ g.rules, x ∈ p.symbols := by
    intro x hx
    rw [hundefined, List.mem_filter, decide_eq_true_iff] at hx
    obtain ⟨-, p, hp, rfl | hsymbol⟩ :=
      (isNonterminal_performAll names calls x).1 (isNonterminal_iff.2 hx.1)
    · exact absurd rfl (hx.2 p hp)
    · exact ⟨p, hp, hsymbol⟩
  have hnodup : reported.Nodup := nodup_reported h hlisted hused hoccurs
  have hreport : report = ⟨.ok (.number g.warnings.length), g.warnings, g⟩ := perform_warnUnused g
  have hlength : g.warnings.length = reported.length := by simp [warnings, reported]
  rw [hreport, hlength]
  exact ⟨hterminals, hnonterminals, start_performAll_iff names calls, hundefined, hoccurs, hnodup,
    rfl, rfl, level_warnings g, rfl⟩

/-- The start symbol is used by production 0 alone. -/
example :
    let g := (ofTerminals ["A", "B"] : Grammar Unit).performAll
      [.addProduction "s" ["A", "x"] none none, .augment]
    g.unusedTerminals = ["B"] ∧ g.unusedNonterminals = [] ∧ g.undefinedNonterminals = ["x"] := by
  decide

end FrontEnd.Grammar
