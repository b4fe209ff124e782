import FrontEnd.Proofs.Analysis
import FrontEnd.Proofs.Numbering

namespace FrontEnd.Grammar

variable {α : Type}

/-! ### The end mark -/

section EndMark

variable {g : Grammar α}

theorem endMark_ne_emptyMark : endMark ≠ emptyMark := by decide

theorem members_firstSets_endMark (h : WellFormed g) (hend : g.isNonterminal endMark = false) :
    g.firstSets.1.members endMark = .singleton endMark := by
  rw [(firstStage_firstSets h).fixed endMark hend, members_initialFirst, hend]
  simp

theorem not_mem_initialFirst (hend : g.isNonterminal endMark = true) (k : String) :
    endMark ∉ g.initialFirst.members k := by
  rw [members_initialFirst]
  intro hk
  split at hk
  · exact OrderedSet.not_mem_empty endMark hk
  · rename_i hn
    split at hk
    · -- only the entry for the end mark itself could have it, and that has been replaced
      obtain rfl := OrderedSet.mem_singleton.1 hk
      exact hn hend
    · exact OrderedSet.not_mem_empty endMark hk

theorem not_mem_firstSets (hend : g.isNonterminal endMark = true) (k : String) :
    endMark ∉ g.firstSets.1.members k := by
  have hstep : ∀ m : SymbolSets, (∀ k, endMark ∉ m.members k) → ∀ e ∈ g.definitionOrder,
      ∀ k, endMark ∉ (firstStep m e).members k := by
    intro m hm e _ k hk
    rcases SymbolSets.mem_members_extend.1 hk with hold | ⟨-, hnew⟩
    · exact hm k hold
    · rcases mem_of_mem_firstOfSequence (OrderedSet.mem_toList.1 hnew) with he | ⟨y, -, hy⟩
      · exact endMark_ne_emptyMark he
      · exact hm y hy
  exact SymbolSets.keep_settle_foldl (P := fun m => ∀ k, endMark ∉ m.members k) hstep
    (not_mem_initialFirst hend) k

theorem get?_firstSets_endMark (h : WellFormed g) :
    g.firstSets.1.get? endMark = some (.singleton endMark) ↔ g.isNonterminal endMark = false := by
  have hkey : endMark ∈ g.firstSets.1.keys := by
    rw [(firstStage_firstSets h).bounded.keys]
    exact mem_keys_initialFirst.2 (.inr rfl)
  rw [SymbolSets.get?_eq_members hkey, Option.some.injEq]
  constructor
  · intro hm
    rw [Bool.eq_false_iff]
    intro hend
    apply not_mem_firstSets hend endMark
    rw [hm]
    exact OrderedSet.mem_singleton.2 rfl
  · exact members_firstSets_endMark h

end EndMark

/-- The end mark becomes a nonterminal where a production mentions it that no one has declared. -/
theorem isNonterminal_endMark (names : List String) (calls : List (Call α)) :
    ((ofTerminals names : Grammar α).performAll calls).isNonterminal endMark = false ↔
      endMark ∈ names ∨ ∀ p ∈ ((ofTerminals names : Grammar α).performAll calls).rules,
        endMark ≠ p.name ∧ endMark ∉ p.symbols := by
  have hne : endMark ≠ errorName := by decide
  rw [Bool.eq_false_iff, ne_eq, isNonterminal_performAll, ← Bool.not_eq_true, isTerminal_performAll]
  simp only [hne, or_false]
  push Not
  exact imp_iff_not_or.trans (or_congr_left not_not)

/-! ### Stored sets -/

theorem Headed.mem_rules {g : Grammar α} (hg : Headed g) {p : Production α}
    (hp : p ∈ g.productions) {u v : List String} {b x : String}
    (hsymbols : p.symbols = u ++ b :: x :: v) : p ∈ g.rules := by
  rcases List.mem_append.1 hp with h0 | hp
  · obtain ⟨s, -, hs⟩ := hg.exists_symbols (Option.mem_toList.1 h0)
    have hlength := congrArg List.length (hsymbols.symm.trans hs)
    simp at hlength
    omega
  · exact hp

/-- A symbol that begins with itself follows what it comes right after. -/
theorem Headed.mem_follow {g : Grammar α} (hg : Headed g) (start : String) {x : String}
    (hx : x ∈ g.first.members x) (hne : x ≠ emptyMark) {p : Production α} (hp : p ∈ g.productions)
    {u v : List String} {b : String} (hsymbols : p.symbols = u ++ b :: x :: v)
    (hb : g.isNonterminal b = true) : x ∈ (g.withFollow start).follow.members b := by
  have ho : (⟨p.name, b, x :: v⟩ : Occurrence) ∈ g.occurrences :=
    mem_occurrences.2 ⟨hb, p, hg.mem_rules hp hsymbols, rfl, u, hsymbols⟩
  have hbegins : x ∈ g.firstOf (x :: v) := mem_firstOfSequence_cons.2 (.inl ⟨hx, hne⟩)
  exact (followClosed_followSets g start).next _ ho x hbegins hne

/-- FOLLOW sets that are stored while the end mark has its FIRST set have it where it belongs. -/
theorem Headed.follow_endMark {g : Grammar α} (hg : Headed g) (hfirst : g.first.isEmpty = false)
    (hmark : g.first.get? endMark = some (.singleton endMark)) (hstart : g.start.isSome = true) :
    (g.perform .storeFollow).reply = .ok .done ∧
      ∀ p ∈ (g.perform .storeFollow).grammar.productions, ∀ u b v,
        p.symbols = u ++ b :: endMark :: v →
        (g.perform .storeFollow).grammar.isNonterminal b = true →
        endMark ∈ (g.perform .storeFollow).grammar.follow.members b := by
  obtain ⟨start, hstart⟩ := Option.isSome_iff_exists.1 hstart
  rw [perform_storeFollow hstart hfirst]
  refine ⟨rfl, fun p hp u b v hsymbols hb => ?_⟩
  apply hg.mem_follow start _ endMark_ne_emptyMark hp hsymbols hb
  rw [SymbolSets.members, hmark]
  exact OrderedSet.mem_singleton.2 rfl

/-- The end mark keeps its FIRST set if and only if it has been declared as a terminal or no
production mentions it. It is then in the FOLLOW set of every nonterminal that it comes right after,
whenever these are stored. -/
theorem endMark_kept (names : List String) (before : List (Call α)) :
    let g := (ofTerminals names : Grammar α).performAll (before ++ [.storeFirst])
    let spared := endMark ∈ names ∨ ∀ p ∈ g.rules, endMark ≠ p.name ∧ endMark ∉ p.symbols
    (g.first.get? endMark = some (.singleton endMark) ↔ spared) ∧
    (¬ spared → ∀ k, endMark ∉ g.first.members k) ∧
    (spared → ∀ between, .storeFirst ∉ between →
      (g.performAll between).first.get? endMark = some (.singleton endMark) ∧
      ((g.performAll between).start.isSome = true →
        let stored := (g.performAll between).perform .storeFollow
        stored.reply = .ok .done ∧
        ∀ p ∈ stored.grammar.productions, ∀ u b v, p.symbols = u ++ b :: endMark :: v →
          stored.grammar.isNonterminal b = true →
          endMark ∈ stored.grammar.follow.members b)) := by
  intro g spared
  let g₀ := (ofTerminals names : Grammar α).performAll before
  have hg : g = g₀.withFirst := performAll_append ..
  have hwf₀ : WellFormed g₀ := wellFormed_performAll names before
  have hspared : g₀.isNonterminal endMark = false ↔ spared := by
    show g₀.isNonterminal endMark = false ↔ endMark ∈ names ∨ ∀ p ∈ g.rules, _
    rw [hg]
    exact isNonterminal_endMark names before
  have hget : g.first.get? endMark = some (.singleton endMark) ↔ spared := by
    rw [← hspared, hg]
    exact get?_firstSets_endMark hwf₀
  refine ⟨hget, fun hnot k => ?_, fun hyes between hbetween => ?_⟩
  · rw [hg]
    exact not_mem_firstSets (Bool.not_eq_false _ ▸ mt hspared.1 hnot) k
  · have hfirst : (g.performAll between).first = g.first := first_performAll g hbetween
    have hmark : (g.performAll between).first.get? endMark = some (.singleton endMark) := by
      rw [hfirst]
      exact hget.2 hyes
    have hnonempty : (g.performAll between).first.isEmpty = false := by
      rw [hfirst, hg]
      exact isEmpty_firstSets hwf₀
    have hheaded : Headed (g.performAll between) := by
      rw [← performAll_append]
      exact headed_performAll names _
    exact ⟨hmark, hheaded.follow_endMark hnonempty hmark⟩

/-- A declared end mark may come after other symbols. -/
theorem endMark_kept_declared :
    let before : List (Call Unit) := [.addProduction "s" ["b", endMark] none none,
      .addProduction "b" ["A"] none none]
    let g := (ofTerminals ["A", endMark]).performAll (before ++ [.storeFirst])
    let stored := (g.performAll [.augment]).perform .storeFollow
    g.first.get? endMark = some (.singleton endMark) ∧ stored.reply = .ok .done ∧
      endMark ∈ stored.grammar.follow.members "b" := by
  intro before
  obtain ⟨hget, -, hkept⟩ := endMark_kept ["A", endMark] before
  have hspared : endMark ∈ ["A", endMark] := by decide
  obtain ⟨-, hfollow⟩ := hkept (.inl hspared) [.augment] (by simp)
  obtain ⟨hreply, hmem⟩ := hfollow (by decide)
  obtain ⟨p, hp, hsymbols⟩ : ∃ p ∈ ((((ofTerminals ["A", endMark]).performAll
      (before ++ [.storeFirst])).performAll [.augment]).perform .storeFollow).grammar.productions,
      p.symbols = ["b", endMark] := by decide
  exact ⟨hget.2 (.inl hspared), hreply, hmem p hp [] "b" [] hsymbols (by decide)⟩

/-- An end mark that is a nonterminal begins with nothing, and follows nothing that it comes right
after. -/
theorem endMark_lost :
    let before : List (Call Unit) := [.addProduction "s" ["b", endMark] none none,
      .addProduction "b" ["A"] none none, .augment]
    let g := (ofTerminals ["A"]).performAll (before ++ [.storeFirst])
    let stored := g.perform .storeFollow
    g.first.get? endMark = some ∅ ∧ stored.reply = .ok .done ∧
      (stored.grammar.production? 1).map Production.symbols = some ["b", endMark] ∧
      stored.grammar.isNonterminal "b" = true ∧
      endMark ∉ stored.grammar.follow.members "b" := by
  decide

/-! ### The mark of the empty sequence -/

theorem emptyMark_mem_firstOfSequence {first : SymbolSets} {u : List String} :
    emptyMark ∈ firstOfSequence first u ↔ ∀ y ∈ u, emptyMark ∈ first.members y := by
  induction u with
  | nil => simp [mem_firstOfSequence_nil]
  | cons y u ih =>
    rw [mem_firstOfSequence_cons, ih, List.forall_mem_cons]
    simp

/-- Some terminal of a sequence is not called like the mark. -/
def Solid (g : Grammar α) (u : List String) : Prop :=
  ∃ t ∈ u, g.isTerminal t = true ∧ t ≠ emptyMark

instance (g : Grammar α) (u : List String) : Decidable (g.Solid u) :=
  inferInstanceAs (Decidable (∃ t ∈ u, g.isTerminal t = true ∧ t ≠ emptyMark))

/-- The mark is in a set only if that is of the terminal of its name, or if all symbols of some
right-hand side have it in theirs. -/
def Supported (g : Grammar α) (m : SymbolSets) : Prop :=
  ∀ k, emptyMark ∈ m.members k → k = emptyMark ∧ g.isTerminal k = true ∨
    ∃ p ∈ g.rules, p.name = k ∧ ∀ y ∈ p.symbols, emptyMark ∈ m.members y

section Supported

variable {g : Grammar α} {m : SymbolSets}

theorem supported_initialFirst (g : Grammar α) : Supported g g.initialFirst := by
  intro k hk
  rw [members_initialFirst] at hk
  split at hk
  · exact absurd hk (OrderedSet.not_mem_empty emptyMark)
  · split at hk
    · rename_i hown
      obtain rfl := OrderedSet.mem_singleton.1 hk
      exact .inl ⟨rfl, hown.resolve_right endMark_ne_emptyMark.symm⟩
    · exact absurd hk (OrderedSet.not_mem_empty emptyMark)

theorem Supported.step (h : WellFormed g) (hm : Supported g m) {e : String × List String}
    (he : e ∈ g.definitionOrder) : Supported g (firstStep m e) := by
  obtain ⟨p, hp, rfl⟩ := (mem_definitionOrder h).1 he
  have hmore {k : String} (hk : emptyMark ∈ m.members k) :
      emptyMark ∈ (firstStep m (p.name, p.symbols)).members k :=
    SymbolSets.mem_members_extend.2 (.inl hk)
  intro k hk
  rcases SymbolSets.mem_members_extend.1 hk with hold | ⟨rfl, hnew⟩
  · refine (hm k hold).imp_right ?_
    rintro ⟨q, hq, hname, hempty⟩
    exact ⟨q, hq, hname, fun y hy => hmore (hempty y hy)⟩
  · -- the right-hand side that brings the mark is the one that supports it
    have hempty := emptyMark_mem_firstOfSequence.1 (OrderedSet.mem_toList.1 hnew)
    exact .inr ⟨p, hp, rfl, fun y hy => hmore (hempty y hy)⟩

theorem supported_firstSets (h : WellFormed g) : Supported g g.firstSets.1 :=
  SymbolSets.keep_settle_foldl (fun _ hm _ he => hm.step h he) (supported_initialFirst g)

theorem Supported.of_same (hm : Supported g m) {g' : Grammar α} (hs : Same g g') :
    Supported g' m := by
  intro k hk
  rw [hs.isTerminal]
  refine (hm k hk).imp_right ?_
  rintro ⟨p, hp, rfl, hempty⟩
  obtain ⟨q, hq, hname, hsymbols⟩ := hs.symm.exists_rule hp
  exact ⟨q, hq, hname, hsymbols ▸ hempty⟩

theorem Supported.added (hm : Supported g m) (name : String) (symbols : List String)
    (action : Option α) (precedence : Precedence) :
    Supported (g.added name symbols action precedence) m := by
  intro k hk
  rw [isTerminal_added]
  refine (hm k hk).imp_right ?_
  rintro ⟨p, hp, hname, hempty⟩
  exact ⟨p, List.mem_append_left _ hp, hname, hempty⟩

/-- Productions are never taken away, so what supports a stored set stays. -/
theorem Supported.change (h : WellFormed g) (hm : Supported g g.first) {g' : Grammar α}
    (hc : Change g g') : Supported g' g'.first := by
  rcases hc.first_eq_or_stored with hfirst | rfl
  · rw [hfirst]
    rcases hc.same_or_added h with hs | ⟨name, symbols, action, precedence, -, rfl⟩
    · exact hm.of_same hs
    · exact hm.added name symbols action precedence
  · exact (supported_firstSets h).of_same (same_withFirst g)

theorem supported_performAll (names : List String) (calls : List (Call α)) :
    Supported ((ofTerminals names : Grammar α).performAll calls)
      ((ofTerminals names : Grammar α).performAll calls).first :=
  (wellFormed_ofTerminals names).performAll_induction (P := fun g => Supported g g.first)
    (fun _ _ h hc hm => hm.change h hc) (fun _ hk => absurd hk (OrderedSet.not_mem_empty emptyMark))
    calls

/-- No terminal is a left-hand side. -/
theorem Supported.eq_emptyMark (h : WellFormed g) (hm : Supported g m) {t : String}
    (ht : g.isTerminal t = true) (hempty : emptyMark ∈ m.members t) : t = emptyMark := by
  rcases hm t hempty with ⟨he, -⟩ | ⟨p, hp, rfl, -⟩
  · exact he
  · rw [h.isTerminal_eq_false (h.defined p hp)] at ht
    contradiction

theorem Supported.not_mem (h : WellFormed g) (hm : Supported g m) {u : List String}
    (hu : g.Solid u) : emptyMark ∉ firstOfSequence m u := by
  obtain ⟨t, htu, ht, hne⟩ := hu
  intro hempty
  exact hne (hm.eq_emptyMark h ht (emptyMark_mem_firstOfSequence.1 hempty t htu))

theorem Supported.not_mem_members (h : WellFormed g) (hm : Supported g m) {n : String}
    (hn : g.isNonterminal n = true) (hsolid : ∀ p ∈ g.rules, p.name = n → g.Solid p.symbols) :
    emptyMark ∉ m.members n := by
  intro hempty
  rcases hm n hempty with ⟨-, ht⟩ | ⟨p, hp, hname, hall⟩
  · rw [h.isTerminal_eq_false hn] at ht
    contradiction
  · exact hm.not_mem h (hsolid p hp hname) (emptyMark_mem_firstOfSequence.2 hall)

end Supported

/-- After any calls, what has a terminal in it that is not called like the mark of the empty
sequence is not taken for nullable. This is so of all terminals if and only if none is called like
the mark. -/
theorem terminals_not_empty (names : List String) (calls : List (Call α)) :
    let g := (ofTerminals names : Grammar α).performAll calls
    (∀ symbols, g.Solid symbols → emptyMark ∉ g.firstOf symbols) ∧
    (∀ n, g.isNonterminal n = true → (∀ p ∈ g.rules, p.name = n → g.Solid p.symbols) →
      emptyMark ∉ g.first.members n) ∧
    (.storeFirst ∈ calls →
      ((∀ symbols, (∃ t ∈ symbols, g.isTerminal t = true) → emptyMark ∉ g.firstOf symbols) ∧
        (∀ n, g.isNonterminal n = true →
          (∀ p ∈ g.rules, p.name = n → ∃ t ∈ p.symbols, g.isTerminal t = true) →
          emptyMark ∉ g.first.members n) ↔
      emptyMark ∉ names)) := by
  intro g
  have h : WellFormed g := wellFormed_performAll names calls
  have hm : Supported g g.first := supported_performAll names calls
  have hterm : g.isTerminal emptyMark = true ↔ emptyMark ∈ names :=
    (isTerminal_performAll names calls emptyMark).trans (or_iff_left (by decide))
  have hsequence : ∀ symbols, g.Solid symbols → emptyMark ∉ g.firstOf symbols :=
    fun symbols hu => hm.not_mem h hu
  have hname : ∀ n, g.isNonterminal n = true →
      (∀ p ∈ g.rules, p.name = n → g.Solid p.symbols) → emptyMark ∉ g.first.members n :=
    fun n hn hsolid => hm.not_mem_members h hn hsolid
  refine ⟨hsequence, hname, fun hcalls => ⟨?_, fun hmark => ?_⟩⟩
  · rintro ⟨hnone, -⟩ hmark
    have ht : g.isTerminal emptyMark = true := hterm.2 hmark
    obtain ⟨before, after, rfl⟩ := List.append_of_mem hcalls
    apply hnone [emptyMark] ⟨emptyMark, List.mem_singleton_self _, ht⟩
    apply mem_firstOfSequence_singleton.2
    rw [SymbolSets.members, terminalsFirst_performAll names before after emptyMark ht]
    exact OrderedSet.mem_singleton.2 rfl
  · have hsolid {u : List String} : (∃ t ∈ u, g.isTerminal t = true) → g.Solid u := by
      rintro ⟨t, htu, ht⟩
      refine ⟨t, htu, ht, ?_⟩
      rintro rfl
      exact hmark (hterm.1 ht)
    exact ⟨fun symbols hu => hsequence symbols (hsolid hu),
      fun n hn hall => hname n hn fun p hp hpn => hsolid (hall p hp hpn)⟩

/-- Beside a terminal that is called like the mark, another one still counts. -/
theorem terminals_not_empty_beside_mark :
    let calls : List (Call Unit) := [.addProduction "s" ["t", "A"] none none,
      .addProduction "t" [emptyMark] none none, .storeFirst, .addProduction "t" [] none none]
    let g := (ofTerminals ["A", emptyMark]).performAll calls
    emptyMark ∉ g.firstOf [emptyMark, "t", "A"] ∧ emptyMark ∉ g.first.members "s" := by
  intro calls g
  obtain ⟨hsequence, hname, -⟩ := terminals_not_empty ["A", emptyMark] calls
  exact ⟨hsequence [emptyMark, "t", "A"] (by decide), hname "s" (by decide) (by decide)⟩

/-- A terminal that is called like the mark makes what contains it nullable. -/
theorem terminal_taken_for_empty :
    let calls : List (Call Unit) := [.addProduction "s" [emptyMark] none none, .storeFirst]
    let g := (ofTerminals ["A", emptyMark]).performAll calls
    g.isTerminal emptyMark = true ∧ emptyMark ∈ g.firstOf [emptyMark] ∧
      g.isNonterminal "s" = true ∧
      g.rules.map (fun p => (p.name, p.symbols)) = [("s", [emptyMark])] ∧
      emptyMark ∈ g.first.members "s" := by
  decide

end FrontEnd.Grammar
