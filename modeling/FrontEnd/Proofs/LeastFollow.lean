import FrontEnd.Proofs.Follow

namespace FrontEnd.Grammar

variable {α : Type}

structure ResultsOver (g : Grammar α) : Prop where
  first : ∀ k, ∀ x ∈ g.first.members k, g.isTerminal x = true ∨ x = endMark ∨ x = emptyMark
  follow : ∀ b, ∀ x ∈ g.follow.members b, x ≠ emptyMark ∧ (g.isTerminal x = true ∨ x = endMark)

section Stored

variable {g : Grammar α} (hg : ResultsOver g)

include hg

theorem ResultsOver.mem_firstOf {symbols : List String} {x : String} (hx : x ∈ g.firstOf symbols)
    (hne : x ≠ emptyMark) : g.isTerminal x = true ∨ x = endMark := by
  rcases mem_of_mem_firstOfSequence hx with he | ⟨y, -, hy⟩
  · exact absurd he hne
  · rcases hg.first y x hy with hterm | hend | he
    · exact .inl hterm
    · exact .inr hend
    · exact absurd he hne

/-- FOLLOW sets get their members from FIRST sets, where the mark is left behind, and from each
other. -/
theorem ResultsOver.mem_followSets (start : String) :
    ∀ b, ∀ x ∈ (g.followSets start).1.members b,
      x ≠ emptyMark ∧ (g.isTerminal x = true ∨ x = endMark) := by
  apply of_mem_followSets
    (F := fun _ x => x ≠ emptyMark ∧ (g.isTerminal x = true ∨ x = endMark))
  · exact ⟨by decide, .inr rfl⟩
  · exact fun o _ x hx hne => ⟨hne, hg.mem_firstOf hx hne⟩
  · exact fun o _ _ x hx => hx

theorem ResultsOver.change {g' : Grammar α} (h : WellFormed g) (hc : Change g g') :
    ResultsOver g' := by
  have hterminals : g'.isTerminal = g.isTerminal := isTerminal_congr (hc.terminals h)
  constructor
  · intro k x hx
    rw [hterminals]
    rcases hc.first_eq_or_stored with he | rfl
    · exact hg.first k x (he ▸ hx)
    · exact mem_alphabet.1 ((firstStage_firstSets h).bounded.members k x hx)
  · intro b x hx
    rw [hterminals]
    rcases hc.follow_eq_or_stored with he | ⟨start, -, rfl⟩
    · exact hg.follow b x (he ▸ hx)
    · exact hg.mem_followSets start b x hx

end Stored

theorem resultsOver_performAll (names : List String) (calls : List (Call α)) :
    ResultsOver ((ofTerminals names : Grammar α).performAll calls) := by
  have hbegin : ResultsOver (ofTerminals names : Grammar α) :=
    ⟨fun _ x hx => absurd hx (OrderedSet.not_mem_empty x),
      fun _ x hx => absurd hx (OrderedSet.not_mem_empty x)⟩
  exact (wellFormed_ofTerminals names).performAll_induction
    (fun _ _ h hc hg => hg.change h hc) hbegin calls

/-- What is asked of a family of FOLLOW sets: the end mark follows the start symbol, and a
nonterminal in a right-hand side is followed by what comes first behind it, and if all that may be
empty, by what follows the left-hand side. -/
structure FollowSolution (g : Grammar α) (start : String) (F : String → String → Prop) : Prop where
  start : F start endMark
  next : ∀ p ∈ g.rules, ∀ u b v, p.symbols = u ++ b :: v → g.isNonterminal b = true →
    ∀ x ∈ g.firstOf v, x ≠ emptyMark → F b x
  last : ∀ p ∈ g.rules, ∀ u b v, p.symbols = u ++ b :: v → g.isNonterminal b = true →
    emptyMark ∈ g.firstOf v → ∀ x, F p.name x → F b x

theorem FollowClosed.solution {g : Grammar α} {start : String} {m : SymbolSets}
    (hm : FollowClosed g start m) : FollowSolution g start fun b x => x ∈ m.members b where
  start := hm.start
  next p hp u b v hsymbols hb x hx hne :=
    hm.next ⟨p.name, b, v⟩ (mem_occurrences.2 ⟨hb, p, hp, rfl, u, hsymbols⟩) x hx hne
  last p hp u b v hsymbols hb he x hx :=
    hm.last ⟨p.name, b, v⟩ (mem_occurrences.2 ⟨hb, p, hp, rfl, u, hsymbols⟩) he x hx

theorem FollowSolution.of_mem_followSets {g : Grammar α} {start : String}
    {F : String → String → Prop} (hF : FollowSolution g start F) :
    ∀ b, ∀ x ∈ (g.followSets start).1.members b, F b x := by
  apply Grammar.of_mem_followSets hF.start
  · intro o ho x hx hne
    obtain ⟨hb, p, hp, -, u, hsymbols⟩ := mem_occurrences.1 ho
    exact hF.next p hp u _ _ hsymbols hb x hx hne
  · intro o ho he x hx
    obtain ⟨hb, p, hp, hname, u, hsymbols⟩ := mem_occurrences.1 ho
    exact hF.last p hp u _ _ hsymbols hb he x (hname ▸ hx)

theorem keys_initialFollow {g : Grammar α} {start : String} (hs : g.isNonterminal start = true) :
    (g.initialFollow start).keys = g.nonterminals.names := by
  have hfst : (g.nonterminals.names.map fun n => (n, (∅ : OrderedSet String))).map Prod.fst =
      g.nonterminals.names := by
    rw [List.map_map]
    exact List.map_id _
  rw [initialFollow, OrderedMap.keys_insert, OrderedMap.keys_ofList, hfst,
    if_pos (isNonterminal_iff.1 hs)]
  rw [hfst]
  exact g.nonterminals.entries.nodup

/-- Members of stored FIRST sets are terminals and marks, those of stored FOLLOW sets terminals and
the end mark. The FOLLOW sets that are stored are the least family with what the FIRST sets of that
time ask for, be they up to date or not. -/
theorem follow_least (names : List String) (calls : List (Call α)) :
    let g := (ofTerminals names : Grammar α).performAll calls
    let stored := g.perform .storeFollow
    let follow := stored.grammar.follow
    ((∀ k, ∀ x ∈ g.first.members k, g.isTerminal x = true ∨ x = endMark ∨ x = emptyMark) ∧
      ∀ b, ∀ x ∈ g.follow.members b, x ≠ emptyMark ∧ (g.isTerminal x = true ∨ x = endMark)) ∧
    (stored.reply = .ok .done →
      follow.keys = g.nonterminals.names ∧
      (∀ b, ∀ x ∈ follow.members b, x ≠ emptyMark ∧ (g.isTerminal x = true ∨ x = endMark)) ∧
      ∃ start, g.start = some start ∧ FollowSolution g start (fun b x => x ∈ follow.members b) ∧
        ∀ F, FollowSolution g start F → ∀ b, ∀ x ∈ follow.members b, F b x) := by
  intro g stored follow
  have h : WellFormed g := wellFormed_performAll names calls
  have hover : ResultsOver g := resultsOver_performAll names calls
  refine ⟨⟨hover.first, hover.follow⟩, fun hreply => ?_⟩
  obtain ⟨start, hstart, hstored⟩ := storeFollow_done hreply
  have hfollow : follow = (g.followSets start).1 := congrArg Grammar.follow hstored
  rw [hfollow]
  refine ⟨?_, hover.mem_followSets start, start, hstart, ?_, fun F hF => hF.of_mem_followSets⟩
  · rw [(settled_followSets g start).keep, keys_initialFollow (h.isNonterminal_start hstart)]
  · exact (followClosed_followSets g start).solution

/-- A terminal is called as the empty mark, and the FIRST sets do not know of the last two
productions. -/
theorem follow_least_stale :
    let calls : List (Call Unit) := [.addProduction "s" ["a", emptyMark, "b"] none none,
      .storeFirst, .addProduction "a" ["A"] none none, .addProduction "b" ["s", "A"] none none,
      .augment]
    let g := (ofTerminals ["A", emptyMark]).performAll calls
    let stored := g.perform .storeFollow
    stored.reply = .ok .done ∧ stored.grammar.follow.keys = ["s", "a", "b"] ∧
      (∀ b, emptyMark ∉ stored.grammar.follow.members b) ∧
      ∃ start, g.start = some start ∧ ∀ F, FollowSolution g start F → F "b" "A" := by
  intro calls
  have hreply : (((ofTerminals ["A", emptyMark]).performAll calls).perform .storeFollow).reply =
      .ok .done := by decide
  obtain ⟨hkeys, hmembers, start, hstart, -, hleast⟩ :=
    (follow_least ["A", emptyMark] calls).2 hreply
  exact ⟨hreply, hkeys, fun b he => (hmembers b emptyMark he).1 rfl, start, hstart,
    fun F hF => hleast F hF "b" "A" (by decide)⟩

end FrontEnd.Grammar
