import FrontEnd.Proofs.Analysis

namespace FrontEnd

def Production.sides {α : Type} (p : Production α) : String × List String := (p.name, p.symbols)

namespace Grammar

variable {α β : Type}

/-- The same symbols, and the same productions in some order. -/
structure Arranged (g : Grammar α) (g' : Grammar β) : Prop where
  terminals : ∀ x, g'.isTerminal x = g.isTerminal x
  nonterminals : ∀ x, g'.isNonterminal x = g.isNonterminal x
  sides : ∀ e, e ∈ g'.rules.map Production.sides ↔ e ∈ g.rules.map Production.sides

namespace Arranged

variable {g : Grammar α} {g' : Grammar β}

theorem symm (h : Arranged g g') : Arranged g' g :=
  ⟨fun x => (h.terminals x).symm, fun x => (h.nonterminals x).symm, fun e => (h.sides e).symm⟩

theorem of_same (h : Arranged g g') {g₁ : Grammar α} {g₁' : Grammar β} (hs : Same g g₁)
    (hs' : Same g' g₁') : Arranged g₁ g₁' where
  terminals x := by rw [hs'.isTerminal, hs.isTerminal, h.terminals]
  nonterminals x := by rw [hs'.isNonterminal, hs.isNonterminal, h.nonterminals]
  sides e := by rw [hs'.map_rules _ fun _ => rfl, hs.map_rules _ fun _ => rfl, h.sides]

theorem exists_rule (h : Arranged g g') {p : Production α} (hp : p ∈ g.rules) :
    ∃ q ∈ g'.rules, q.name = p.name ∧ q.symbols = p.symbols := by
  obtain ⟨q, hq, he⟩ := List.mem_map.1 ((h.sides p.sides).2 (List.mem_map_of_mem hp))
  exact ⟨q, hq, (Prod.mk.inj he).1, (Prod.mk.inj he).2⟩

theorem mem_definitionOrder (h : Arranged g g') (hwf : WellFormed g) (hwf' : WellFormed g')
    {e : String × List String} (he : e ∈ g.definitionOrder) : e ∈ g'.definitionOrder := by
  obtain ⟨p, hp, rfl⟩ := (Grammar.mem_definitionOrder hwf).1 he
  obtain ⟨q, hq, hname, hsymbols⟩ := h.exists_rule hp
  exact (Grammar.mem_definitionOrder hwf').2 ⟨q, hq, by rw [hname, hsymbols]⟩

theorem mem_keys_initialFirst (h : Arranged g g') {k : String} :
    k ∈ g.initialFirst.keys ↔ k ∈ g'.initialFirst.keys := by
  rw [Grammar.mem_keys_initialFirst, Grammar.mem_keys_initialFirst, Knows, Knows, h.terminals,
    h.nonterminals]

theorem within_firstSets (h : Arranged g g') (hwf : WellFormed g) (hwf' : WellFormed g')
    (x : String) : SymbolSets.Within x g.firstSets.1 g'.firstSets.1 := by
  have hsettled := settled_firstSets hwf'
  have hkeep : ∀ x, SymbolSets.Within x g.firstSets.1 g'.firstSets.1 := by
    apply SymbolSets.keep_settle_foldl
      (P := fun m => ∀ x, SymbolSets.Within x m g'.firstSets.1)
    · intro m hm e he x
      -- the step adds nothing to the sets of the other grammar
      rw [← hsettled.fixed e (h.mem_definitionOrder hwf hwf' he)]
      exact (within_firstStep ⟨hm emptyMark, hm x⟩ e).2
    · intro x k hk
      apply hsettled.grows.mem
      rw [members_initialFirst] at hk ⊢
      rwa [h.nonterminals, h.terminals]
  exact hkeep x

theorem firstSets (h : Arranged g g') (hwf : WellFormed g) (hwf' : WellFormed g') (k : String) :
    (k ∈ g.firstSets.1.keys ↔ k ∈ g'.firstSets.1.keys) ∧
      ∀ x, x ∈ g.firstSets.1.members k ↔ x ∈ g'.firstSets.1.members k := by
  constructor
  · rw [(firstStage_firstSets hwf).bounded.keys, (firstStage_firstSets hwf').bounded.keys]
    exact h.mem_keys_initialFirst
  · exact fun x => ⟨h.within_firstSets hwf hwf' x k, h.symm.within_firstSets hwf' hwf x k⟩

section Follow

variable (h : Arranged g g')
  (hfirst : ∀ x, SymbolSets.Within x g.first g'.first ∧ SymbolSets.Within x g'.first g.first)

include h

theorem mem_occurrences {o : Occurrence} (ho : o ∈ g.occurrences) : o ∈ g'.occurrences := by
  obtain ⟨hsymbol, p, hp, hname, u, hu⟩ := Grammar.mem_occurrences.1 ho
  obtain ⟨q, hq, hqname, hqsymbols⟩ := h.exists_rule hp
  exact Grammar.mem_occurrences.2
    ⟨h.nonterminals o.symbol ▸ hsymbol, q, hq, hqname.trans hname, u, hqsymbols.trans hu⟩

include hfirst

theorem within_followSets (start x : String) :
    SymbolSets.Within x (g.followSets start).1 (g'.followSets start).1 := by
  have hsettled := settled_followSets g' start
  have hnext (o : Occurrence) : ∀ y ∈ g.firstOf o.rest, y ∈ g'.firstOf o.rest := fun y hy =>
    mem_firstOfSequence_of_within (hfirst emptyMark).1 (hfirst y).1 hy
  have hkeep : ∀ x, SymbolSets.Within x (g.followSets start).1 (g'.followSets start).1 := by
    apply SymbolSets.keep_settle_foldl
      (P := fun m => ∀ x, SymbolSets.Within x m (g'.followSets start).1)
    · intro m hm o ho x
      rw [← hsettled.fixed o (h.mem_occurrences ho)]
      exact within_followStep (hnext o) (hm x)
    · intro x k hk
      apply hsettled.grows.mem
      rwa [members_initialFollow] at hk ⊢
  exact hkeep x

theorem followSets (start k : String) :
    (k ∈ (g.followSets start).1.keys ↔ k ∈ (g'.followSets start).1.keys) ∧
      ∀ x, x ∈ (g.followSets start).1.members k ↔ x ∈ (g'.followSets start).1.members k := by
  constructor
  · rw [(settled_followSets g start).keep, (settled_followSets g' start).keep,
      mem_keys_initialFollow, mem_keys_initialFollow, h.nonterminals]
  · exact fun x => ⟨h.within_followSets hfirst start x k,
      h.symm.within_followSets (fun x => (hfirst x).symm) start x k⟩

end Follow

end Arranged

theorem arranged_performAll {names names' : List String} (hnames : ∀ x, x ∈ names ↔ x ∈ names')
    {calls : List (Call α)} {calls' : List (Call β)}
    (hperm : (((ofTerminals names).performAll calls).rules.map Production.sides).Perm
      (((ofTerminals names').performAll calls').rules.map Production.sides)) :
    Arranged ((ofTerminals names).performAll calls) ((ofTerminals names').performAll calls') := by
  have hterminals (x : String) : ((ofTerminals names').performAll calls').isTerminal x =
      ((ofTerminals names).performAll calls).isTerminal x := by
    rw [Bool.eq_iff_iff, isTerminal_performAll, isTerminal_performAll, hnames]
  refine ⟨hterminals, fun x => ?_, fun e => hperm.symm.mem_iff⟩
  have hmentioned {γ : Type} (rules : List (Production γ)) :
      (∃ p ∈ rules, x = p.name ∨ x ∈ p.symbols) ↔
        ∃ e ∈ rules.map Production.sides, x = e.1 ∨ x ∈ e.2 := by
    simp [Production.sides]
  rw [Bool.eq_iff_iff, isNonterminal_performAll, isNonterminal_performAll, hterminals, hmentioned,
    hmentioned]
  simp only [hperm.mem_iff]

/-- Grammars over the same names whose productions are the same up to their order get the same FIRST
sets, and if their first productions have the same left-hand side, the same FOLLOW sets. -/
theorem sets_eq_of_perm {names names' : List String} (hnames : ∀ x, x ∈ names ↔ x ∈ names')
    (calls : List (Call α)) (calls' : List (Call β)) :
    let g := (ofTerminals names : Grammar α).performAll calls
    let g' := (ofTerminals names' : Grammar β).performAll calls'
    (g.rules.map Production.sides).Perm (g'.rules.map Production.sides) →
    let g₁ := (g.perform .storeFirst).grammar
    let g₁' := (g'.perform .storeFirst).grammar
    (∀ k, (k ∈ g₁.first.keys ↔ k ∈ g₁'.first.keys) ∧
      ∀ x, x ∈ g₁.first.members k ↔ x ∈ g₁'.first.members k) ∧
    ∀ s, (g.rules.map Production.name).head? = some s →
      (g'.rules.map Production.name).head? = some s →
      let g₂ := g₁.perform .augment
      let g₂' := g₁'.perform .augment
      let g₃ := g₂.grammar.perform .storeFollow
      let g₃' := g₂'.grammar.perform .storeFollow
      (g₂.reply = .ok .done ∧ g₃.reply = .ok .done ∧
        g₂'.reply = .ok .done ∧ g₃'.reply = .ok .done) ∧
      ∀ k, (k ∈ g₃.grammar.follow.keys ↔ k ∈ g₃'.grammar.follow.keys) ∧
        ∀ x, x ∈ g₃.grammar.follow.members k ↔ x ∈ g₃'.grammar.follow.members k := by
  intro g g' hperm g₁ g₁'
  have hwf : WellFormed g := wellFormed_performAll names calls
  have hwf' : WellFormed g' := wellFormed_performAll names' calls'
  have h : Arranged g g' := arranged_performAll hnames hperm
  refine ⟨h.firstSets hwf hwf', fun s hs hs' => ?_⟩
  obtain ⟨a, ha, hfirst, haugment, hfollow⟩ := perform_follow_of_first hwf hs
  obtain ⟨a', ha', hfirst', haugment', hfollow'⟩ := perform_follow_of_first hwf' hs'
  have hwithin (x : String) :
      SymbolSets.Within x a.first a'.first ∧ SymbolSets.Within x a'.first a.first := by
    rw [hfirst, hfirst']
    exact ⟨h.within_firstSets hwf hwf' x, h.symm.within_firstSets hwf' hwf x⟩
  simp only [g₁, g₁', haugment, haugment', hfollow, hfollow']
  exact ⟨⟨trivial, trivial, trivial, trivial⟩, (h.of_same ha ha').followSets hwithin s⟩

/-- A terminal and a nonterminal may be called like the marks. -/
theorem sets_eq_of_perm_marks :
    let names := [emptyMark, "A"]
    let names' := ["A", emptyMark]
    let calls : List (Call Unit) := [.addProduction "s" [emptyMark, endMark] none none,
      .addProduction endMark ["A", "s"] none none, .addProduction "s" [] none none]
    let calls' : List (Call Unit) := [.addProduction "s" [] none none,
      .addProduction endMark ["A", "s"] none none, .storeFirst,
      .addProduction "s" [emptyMark, endMark] none none]
    let g := (ofTerminals names).performAll calls
    let g' := (ofTerminals names').performAll calls'
    let g₁ := (g.perform .storeFirst).grammar
    let g₁' := (g'.perform .storeFirst).grammar
    let g₃ := ((g₁.perform .augment).grammar.perform .storeFollow).grammar
    let g₃' := ((g₁'.perform .augment).grammar.perform .storeFollow).grammar
    (∀ x, x ∈ names ↔ x ∈ names') ∧
      (g.rules.map Production.sides).Perm (g'.rules.map Production.sides) ∧
      (g.rules.map Production.name).head? = some "s" ∧
      (g'.rules.map Production.name).head? = some "s" ∧
      (∀ x, x ∈ g₁.first.members "s" ↔ x ∈ g₁'.first.members "s") ∧
      ∀ x, x ∈ g₃.follow.members "s" ↔ x ∈ g₃'.follow.members "s" := by
  intro names names' calls calls' g g' g₁ g₁' g₃ g₃'
  have hnames : ∀ x, x ∈ names ↔ x ∈ names' := by simp [names, names', or_comm]
  have hperm : (g.rules.map Production.sides).Perm (g'.rules.map Production.sides) := by decide
  have hs : (g.rules.map Production.name).head? = some "s" := by decide
  have hs' : (g'.rules.map Production.name).head? = some "s" := by decide
  have hsets := sets_eq_of_perm hnames calls calls' hperm
  refine ⟨hnames, hperm, hs, hs', ?_, ?_⟩
  · dsimp only [g₁, g₁', g, g']
    exact (hsets.1 "s").2
  · dsimp only [g₃, g₃', g₁, g₁', g, g']
    exact ((hsets.2 "s" hs hs').2 "s").2

end Grammar
end FrontEnd
