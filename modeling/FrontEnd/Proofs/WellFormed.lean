import FrontEnd.Proofs.Runs

namespace FrontEnd.Grammar

variable {α : Type}

/-- The same symbols and productions. Items, uses and results of the analysis may differ. -/
structure Same (g g' : Grammar α) : Prop where
  terminals : g'.terminals.names = g.terminals.names
  nonterminals : g'.nonterminals.names = g.nonterminals.names
  rules : g'.rules.map Production.bare = g.rules.map Production.bare
  definitions : g'.definitions = g.definitions

def Knows (g : Grammar α) (x : String) : Prop := g.isTerminal x = true ∨ g.isNonterminal x = true

structure WellFormed (g : Grammar α) : Prop where
  disjoint : ∀ x, g.isTerminal x = true → g.isNonterminal x = false
  /-- Left-hand sides are nonterminals. -/
  defined : ∀ p ∈ g.rules, g.isNonterminal p.name = true
  known : ∀ p ∈ g.rules, ∀ x ∈ p.symbols, g.Knows x
  /-- Production `k + 1` is at place `k`. -/
  numbered : g.rules.map Production.number = (List.range g.rules.length).map (· + 1)
  indexed : ∀ n, g.productionsFor n = (g.rules.filter (·.name = n)).map Production.number
  started : ∀ s, g.start = some s → (g.rules.map Production.name).head? = some s

namespace Same

variable {g g' : Grammar α}

theorem refl (g : Grammar α) : Same g g := ⟨rfl, rfl, rfl, rfl⟩

theorem trans {g'' : Grammar α} (h : Same g g') (h' : Same g' g'') : Same g g'' :=
  ⟨h'.terminals.trans h.terminals, h'.nonterminals.trans h.nonterminals, h'.rules.trans h.rules,
    h'.definitions.trans h.definitions⟩

theorem symm (h : Same g g') : Same g' g :=
  ⟨h.terminals.symm, h.nonterminals.symm, h.rules.symm, h.definitions.symm⟩

theorem isTerminal (h : Same g g') : g'.isTerminal = g.isTerminal := isTerminal_congr h.terminals

theorem isNonterminal (h : Same g g') : g'.isNonterminal = g.isNonterminal := by
  funext x
  rw [Bool.eq_iff_iff, isNonterminal_iff, isNonterminal_iff, h.nonterminals]

theorem exists_rule (h : Same g g') {p : Production α} (hp : p ∈ g'.rules) :
    ∃ q ∈ g.rules, q.name = p.name ∧ q.symbols = p.symbols := by
  have hm : p.bare ∈ g'.rules.map Production.bare := List.mem_map_of_mem hp
  rw [h.rules] at hm
  obtain ⟨q, hq, hqp⟩ := List.mem_map.1 hm
  simp only [Production.bare, Production.mk.injEq] at hqp
  exact ⟨q, hq, hqp.2.1, hqp.2.2.1⟩

theorem map_rules {β : Type} (h : Same g g') (f : Production α → β)
    (hf : ∀ p, f p = f p.bare) : g'.rules.map f = g.rules.map f := by
  have hbare (rules : List (Production α)) :
      rules.map f = (rules.map Production.bare).map f := by
    rw [List.map_map]
    exact List.map_congr_left fun p _ => hf p
  rw [hbare, h.rules, ← hbare]

theorem length_rules (h : Same g g') : g'.rules.length = g.rules.length := by
  have hl := congrArg List.length h.rules
  rwa [List.length_map, List.length_map] at hl

end Same

theorem WellFormed.of_same {g g' : Grammar α} (h : WellFormed g) (hs : Same g g')
    (hstart : ∀ s, g'.start = some s → (g'.rules.map Production.name).head? = some s) :
    WellFormed g' where
  disjoint := by
    rw [hs.isTerminal, hs.isNonterminal]
    exact h.disjoint
  defined p hp := by
    obtain ⟨q, hq, hname, -⟩ := hs.exists_rule hp
    rw [hs.isNonterminal, ← hname]
    exact h.defined q hq
  known p hp x hx := by
    obtain ⟨q, hq, -, hsymbols⟩ := hs.exists_rule hp
    rw [Knows, hs.isTerminal, hs.isNonterminal]
    exact h.known q hq x (hsymbols ▸ hx)
  numbered := by
    rw [hs.map_rules _ fun _ => rfl, hs.length_rules]
    exact h.numbered
  indexed n := by
    -- of a production only its name and its number count here
    have hfilter (rules : List (Production α)) :
        (rules.filter (·.name = n)).map Production.number =
          (rules.map fun p => (p.name, p.number)).filterMap
            fun e => if e.1 = n then some e.2 else none := by
      induction rules with
      | nil => rfl
      | cons p rules ih => by_cases hp : p.name = n <;> simp_all
    rw [hfilter, hs.map_rules _ fun _ => rfl, ← hfilter, ← h.indexed n, productionsFor,
      productionsFor, hs.definitions]
  started := hstart

theorem WellFormed.production?_number {g : Grammar α} (h : WellFormed g) {p : Production α}
    (hp : p ∈ g.rules) : g.production? p.number = some p := by
  obtain ⟨i, hi, rfl⟩ := List.getElem_of_mem hp
  have hn : (g.rules.map Production.number)[i]? = some (i + 1) := by
    rw [h.numbered]
    simp [hi]
  rw [List.getElem?_map, List.getElem?_eq_getElem hi, Option.map_some, Option.some.injEq] at hn
  rw [hn]
  exact List.getElem?_eq_getElem hi

theorem WellFormed.isNonterminal_start {g : Grammar α} (h : WellFormed g) {s : String}
    (hs : g.start = some s) : g.isNonterminal s = true := by
  obtain ⟨p, hp, rfl⟩ : ∃ p ∈ g.rules, p.name = s :=
    List.mem_map.1 (List.mem_of_mem_head? (h.started s hs))
  exact h.defined p hp

theorem WellFormed.isTerminal_eq_false {g : Grammar α} (h : WellFormed g) {x : String}
    (hx : g.isNonterminal x = true) : g.isTerminal x = false := by
  rw [Bool.eq_false_iff]
  intro hterm
  exact Bool.false_ne_true ((h.disjoint x hterm).symm.trans hx)

/-! ### What changes keep -/

theorem map_bare_modify (rules : List (Production α)) (n : Nat) (f : Production α → Production α)
    (hf : ∀ p, (f p).bare = p.bare) :
    (rules.modify n f).map Production.bare = rules.map Production.bare := by
  apply List.ext_getElem?
  intro i
  rw [List.getElem?_map, List.getElem?_map, List.getElem?_modify]
  cases rules[i]? with
  | none => rfl
  | some p => by_cases hn : n = i <;> simp [hn, hf]

theorem same_buildItems (g : Grammar α) : Same g g.buildItems := by
  refine ⟨rfl, rfl, ?_, rfl⟩
  simp only [buildItems, List.map_map]
  exact List.map_congr_left fun p _ => rfl

/-- Outside the productions nothing is edited. -/
theorem editLookaheads_eq_some {g g' : Grammar α} {number index : Nat}
    {edit : OrderedMap Nat (List String) → OrderedMap Nat (List String)}
    (h : g.editLookaheads? number index edit = some g') :
    g' = { g with augmented := g'.augmented, rules := g'.rules } := by
  unfold editLookaheads? at h
  obtain ⟨i, -, rfl⟩ := Option.map_eq_some_iff.1 h
  cases number <;> rfl

theorem same_editLookaheads {g g' : Grammar α} {number index : Nat}
    {edit : OrderedMap Nat (List String) → OrderedMap Nat (List String)}
    (h : g.editLookaheads? number index edit = some g') :
    Same g g' ∧ g'.start = g.start ∧ g'.first = g.first ∧ g'.follow = g.follow := by
  unfold editLookaheads? at h
  obtain ⟨i, -, rfl⟩ := Option.map_eq_some_iff.1 h
  cases number with
  | zero => exact ⟨⟨rfl, rfl, rfl, rfl⟩, rfl, rfl, rfl⟩
  | succ n => exact ⟨⟨rfl, rfl, map_bare_modify _ _ _ fun _ => rfl, rfl⟩, rfl, rfl, rfl⟩

theorem same_augmentedWith {g : Grammar α} (h : WellFormed g) {p : Production α}
    (hp : p ∈ g.rules) : Same g (g.augmentedWith p) := by
  refine ⟨rfl, ?_, rfl, rfl⟩
  simp only [augmentedWith]
  split
  · rfl
  · rw [SymbolTable.names_record, if_pos (isNonterminal_iff.1 (h.defined p hp))]

/-- A call either adds a production or leaves the symbols and productions as they are. -/
theorem Change.same_or_added {g g' : Grammar α} (hc : Change g g') (h : WellFormed g) :
    Same g g' ∨ ∃ name symbols action precedence, g.isTerminal name = false ∧
      g' = g.added name symbols action precedence := by
  cases hc with
  | unchanged => exact .inl (.refl g)
  | added hname hprec => exact .inr ⟨_, _, _, _, hname, rfl⟩
  | declared hterm => exact .inl ⟨rfl, rfl, rfl, rfl⟩
  | augmented hrules => exact .inl (same_augmentedWith h (hrules ▸ List.mem_cons_self))
  | first => exact .inl ⟨rfl, rfl, rfl, rfl⟩
  | follow hstart hfirst => exact .inl ⟨rfl, rfl, rfl, rfl⟩
  | items => exact .inl (same_buildItems g)
  | lookaheads hitem => exact .inl (same_editLookaheads hitem).1

theorem Change.start_eq_or_augmented {g g' : Grammar α} (hc : Change g g') :
    g'.start = g.start ∨ ∃ p rest, g.rules = p :: rest ∧ g' = g.augmentedWith p := by
  cases hc with
  | augmented hrules => exact .inr ⟨_, _, hrules, rfl⟩
  | lookaheads hitem => exact .inl (same_editLookaheads hitem).2.1
  | _ => exact .inl rfl

/-- The start symbol is the name of the first production, so it is set once and for all. -/
theorem Change.start_kept {g g' : Grammar α} (hc : Change g g') (h : WellFormed g) {s : String}
    (hs : g.start = some s) : g'.start = some s := by
  rcases hc.start_eq_or_augmented with he | ⟨p, rest, hrules, rfl⟩
  · rw [he, hs]
  · have hname := h.started s hs
    rwa [hrules] at hname

theorem Change.first_eq_or_stored {g g' : Grammar α} (hc : Change g g') :
    g'.first = g.first ∨ g' = g.withFirst := by
  cases hc with
  | first => exact .inr rfl
  | lookaheads hitem => exact .inl (same_editLookaheads hitem).2.2.1
  | _ => exact .inl rfl

theorem first_perform (g : Grammar α) {c : Call α} (hc : c ≠ .storeFirst) :
    (g.perform c).grammar.first = g.first := by
  have heffect := effect_perform g c
  generalize (g.perform c).reply = reply, (g.perform c).grammar = g' at heffect ⊢
  cases heffect with
  | first => contradiction
  | lookaheads hitem => exact (same_editLookaheads hitem).2.2.1
  | _ => rfl

theorem first_performAll (g : Grammar α) {calls : List (Call α)} (hcalls : .storeFirst ∉ calls) :
    (g.performAll calls).first = g.first := by
  induction calls generalizing g with
  | nil => rfl
  | cons c calls ih =>
    rw [List.mem_cons, not_or] at hcalls
    rw [performAll_cons, ih _ hcalls.2, first_perform g (Ne.symm hcalls.1)]

theorem Change.follow_eq_or_stored {g g' : Grammar α} (hc : Change g g') :
    g'.follow = g.follow ∨ ∃ start, g.start = some start ∧ g' = g.withFollow start := by
  cases hc with
  | follow hstart hfirst => exact .inr ⟨_, hstart, rfl⟩
  | lookaheads hitem => exact .inl (same_editLookaheads hitem).2.2.2
  | _ => exact .inl rfl

section Added

variable {g : Grammar α} {name : String} {symbols : List String} {action : Option α}
  {precedence : Precedence}

theorem length_rules_added :
    (g.added name symbols action precedence).rules.length = g.rules.length + 1 := by
  simp [added]

theorem terminals_added :
    (g.added name symbols action precedence).terminals.names = g.terminals.names := by
  apply SymbolTable.names_recordAll
  intro x hx
  exact isTerminal_iff.1 (List.mem_filter.1 hx).2

theorem isTerminal_added (x : String) :
    (g.added name symbols action precedence).isTerminal x = g.isTerminal x :=
  congrFun (isTerminal_congr terminals_added) x

theorem isNonterminal_added {x : String} :
    (g.added name symbols action precedence).isNonterminal x = true ↔
      g.isNonterminal x = true ∨ x = name ∨ x ∈ symbols ∧ g.isTerminal x = false := by
  rw [isNonterminal_iff, isNonterminal_iff, added, SymbolTable.mem_names_recordAll,
    SymbolTable.mem_names_add, or_assoc, List.mem_filter, Bool.not_eq_true']

theorem productionsFor_added (n : String) :
    (g.added name symbols action precedence).productionsFor n =
      g.productionsFor n ++ if n = name then [g.rules.length + 1] else [] := by
  rw [productionsFor, added, OrderedMap.get?_update]
  split
  · rename_i h
    simp [h, productionsFor]
  · simp [productionsFor]

theorem wellFormed_added (h : WellFormed g) (hname : g.isTerminal name = false) :
    WellFormed (g.added name symbols action precedence) where
  disjoint x hx := by
    rw [isTerminal_added] at hx
    rw [Bool.eq_false_iff]
    intro hn
    rcases isNonterminal_added.1 hn with hn | rfl | ⟨-, hn⟩
    · exact absurd hn (Bool.eq_false_iff.1 (h.disjoint x hx))
    · exact absurd hx (Bool.eq_false_iff.1 hname)
    · exact absurd hx (Bool.eq_false_iff.1 hn)
  defined p hp := by
    rw [isNonterminal_added]
    rcases List.mem_append.1 hp with hp | hp
    · exact .inl (h.defined p hp)
    · obtain rfl := List.mem_singleton.1 hp
      exact .inr (.inl rfl)
  known p hp x hx := by
    rw [Knows, isTerminal_added, isNonterminal_added]
    rcases List.mem_append.1 hp with hp | hp
    · exact (h.known p hp x hx).imp_right .inl
    · obtain rfl := List.mem_singleton.1 hp
      cases hterm : g.isTerminal x with
      | true => exact .inl rfl
      | false => exact .inr (.inr (.inr ⟨hx, rfl⟩))
  numbered := by
    simp [added, h.numbered, List.range_succ]
  indexed n := by
    rw [productionsFor_added, h.indexed n, added, List.filter_append, List.map_append]
    by_cases hn : n = name
    · simp [hn]
    · simp [hn, Ne.symm hn]
  started s hs := by
    have hold := h.started s hs
    rw [added, List.map_append, List.head?_append, hold]
    rfl

end Added

theorem WellFormed.change {g g' : Grammar α} (h : WellFormed g) (hc : Change g g') :
    WellFormed g' := by
  rcases hc.same_or_added h with hs | ⟨name, symbols, action, precedence, hname, rfl⟩
  · apply h.of_same hs
    intro s hstart
    rw [hs.map_rules _ fun _ => rfl]
    rcases hc.start_eq_or_augmented with he | ⟨p, rest, hrules, rfl⟩
    · exact h.started s (he ▸ hstart)
    · rw [hrules]
      exact hstart
  · exact wellFormed_added h hname

theorem wellFormed_ofTerminals (names : List String) :
    WellFormed (ofTerminals names : Grammar α) where
  disjoint _ _ := Bool.eq_false_iff.2 fun h => List.not_mem_nil (isNonterminal_iff.1 h)
  defined _ hp := absurd hp List.not_mem_nil
  known _ hp := absurd hp List.not_mem_nil
  numbered := rfl
  indexed _ := rfl
  started _ hs := nomatch hs

theorem WellFormed.performAll {g : Grammar α} (h : WellFormed g) (calls : List (Call α)) :
    WellFormed (g.performAll calls) :=
  performAll_induction (fun _ _ hc h => h.change hc) h calls

theorem wellFormed_performAll (names : List String) (calls : List (Call α)) :
    WellFormed ((ofTerminals names).performAll calls) :=
  (wellFormed_ofTerminals names).performAll calls

theorem WellFormed.performAll_induction {P : Grammar α → Prop}
    (hstep : ∀ g g', WellFormed g → Change g g' → P g → P g') {g : Grammar α} (h : WellFormed g)
    (hg : P g) (calls : List (Call α)) : P (g.performAll calls) := by
  have hrun := Grammar.performAll_induction (P := fun g => WellFormed g ∧ P g)
    (fun _ _ hc hg => ⟨hg.1.change hc, hstep _ _ hg.1 hc hg.2⟩) ⟨h, hg⟩ calls
  exact hrun.2

theorem Change.length_rules_le {g g' : Grammar α} (hc : Change g g') (h : WellFormed g) :
    g.rules.length ≤ g'.rules.length := by
  rcases hc.same_or_added h with hs | ⟨name, symbols, action, precedence, -, rfl⟩
  · exact Nat.le_of_eq hs.length_rules.symm
  · rw [length_rules_added]
    exact Nat.le_add_right _ _

theorem length_rules_le_performAll {g : Grammar α} (h : WellFormed g) (calls : List (Call α)) :
    g.rules.length ≤ (g.performAll calls).rules.length :=
  h.performAll_induction (P := fun g' => g.rules.length ≤ g'.rules.length)
    (fun _ _ h' hc hle => Nat.le_trans hle (hc.length_rules_le h')) (Nat.le_refl _) calls

/-- A run with as many productions at its end as at its beginning adds none on the way. -/
theorem performAll_induction_same {P : Grammar α → Prop}
    (hstep : ∀ g g', Change g g' → WellFormed g → Same g g' → P g → P g') {g : Grammar α}
    (h : WellFormed g) (hg : P g) (calls : List (Call α))
    (hrules : (g.performAll calls).rules.length = g.rules.length) : P (g.performAll calls) := by
  induction calls generalizing g with
  | nil => exact hg
  | cons c calls ih =>
    have hc := change_perform g c
    -- a production added now would still be there at the end
    have hle := length_rules_le_performAll (h.change hc) calls
    rw [performAll_cons] at hrules
    rcases hc.same_or_added h with hs | ⟨name, symbols, action, precedence, -, he⟩
    · exact ih (h.change hc) (hstep _ _ hc h hs hg) (hrules.trans hs.length_rules.symm)
    · rw [he] at hle hrules
      rw [length_rules_added] at hle
      omega

theorem Change.terminals {g g' : Grammar α} (hc : Change g g') (h : WellFormed g) :
    g'.terminals.names = g.terminals.names := by
  rcases hc.same_or_added h with hs | ⟨name, symbols, action, precedence, -, rfl⟩
  · exact hs.terminals
  · exact terminals_added

theorem terminals_performAll (names : List String) (calls : List (Call α)) :
    ((ofTerminals names : Grammar α).performAll calls).terminals.names =
      (ofTerminals names : Grammar α).terminals.names :=
  (wellFormed_ofTerminals names).performAll_induction
    (P := fun g : Grammar α => g.terminals.names = (ofTerminals names).terminals.names)
    (fun _ _ h hc hg => (hc.terminals h).trans hg) rfl calls

/-- The terminals are those given at the beginning, and the one for errors. -/
theorem isTerminal_performAll (names : List String) (calls : List (Call α)) (x : String) :
    ((ofTerminals names : Grammar α).performAll calls).isTerminal x = true ↔
      x ∈ names ∨ x = errorName := by
  rw [isTerminal_iff, terminals_performAll, ofTerminals, SymbolTable.mem_names_add,
    SymbolTable.mem_names_ofList]

theorem Change.mentioned {g g' : Grammar α} (hc : Change g g') (h : WellFormed g)
    (hm : ∀ x, g.isNonterminal x = true → ∃ p ∈ g.rules, x = p.name ∨ x ∈ p.symbols) (x : String)
    (hx : g'.isNonterminal x = true) : ∃ p ∈ g'.rules, x = p.name ∨ x ∈ p.symbols := by
  rcases hc.same_or_added h with hs | ⟨name, symbols, action, precedence, -, rfl⟩
  · rw [hs.isNonterminal] at hx
    obtain ⟨p, hp, hpx⟩ := hm x hx
    obtain ⟨q, hq, hname, hsymbols⟩ := hs.symm.exists_rule hp
    exact ⟨q, hq, by rwa [hname, hsymbols]⟩
  · rcases isNonterminal_added.1 hx with hx | rfl | ⟨hx, -⟩
    · obtain ⟨p, hp, hpx⟩ := hm x hx
      exact ⟨p, List.mem_append_left _ hp, hpx⟩
    · exact ⟨_, List.mem_append_right _ List.mem_cons_self, .inl rfl⟩
    · exact ⟨_, List.mem_append_right _ List.mem_cons_self, .inr hx⟩

/-- The nonterminals are the symbols that productions mention, the terminals apart. -/
theorem isNonterminal_performAll (names : List String) (calls : List (Call α)) (x : String) :
    ((ofTerminals names : Grammar α).performAll calls).isNonterminal x = true ↔
      ((ofTerminals names : Grammar α).performAll calls).isTerminal x = false ∧
        ∃ p ∈ ((ofTerminals names : Grammar α).performAll calls).rules,
          x = p.name ∨ x ∈ p.symbols := by
  let g := (ofTerminals names : Grammar α).performAll calls
  have h : WellFormed g := wellFormed_performAll names calls
  have hmentioned : ∀ x, g.isNonterminal x = true → ∃ p ∈ g.rules, x = p.name ∨ x ∈ p.symbols :=
    (wellFormed_ofTerminals names).performAll_induction
      (P := fun g : Grammar α =>
        ∀ x, g.isNonterminal x = true → ∃ p ∈ g.rules, x = p.name ∨ x ∈ p.symbols)
      (fun _ _ h hc hm => hc.mentioned h hm)
      (fun x hx => absurd (isNonterminal_iff.1 hx) List.not_mem_nil) calls
  constructor
  · intro hx
    exact ⟨h.isTerminal_eq_false hx, hmentioned x hx⟩
  · rintro ⟨hterm, p, hp, rfl | hx⟩
    · exact h.defined p hp
    · exact (h.known p hp x hx).resolve_left (Bool.eq_false_iff.1 hterm)

end FrontEnd.Grammar
