import FrontEnd.Proofs.Histories

namespace FrontEnd.Grammar

variable {α : Type}

/-! ### Calls that add a production -/

def Call.adds : Call α → Bool
  | .addProduction .. => true
  | _ => false

theorem same_perform {g : Grammar α} (h : WellFormed g) {c : Call α} (hc : c.adds = false) :
    Same g (g.perform c).grammar := by
  have heffect := effect_perform g c
  generalize (g.perform c).reply = reply, (g.perform c).grammar = g' at heffect ⊢
  cases heffect with
  | added => contradiction
  | augmented hrules => exact same_augmentedWith h (hrules ▸ List.mem_cons_self)
  | items => exact same_buildItems g
  | lookaheads hitem => exact (same_editLookaheads hitem).1
  | _ => exact ⟨rfl, rfl, rfl, rfl⟩

theorem length_rules_perform {g : Grammar α} (h : WellFormed g) (c : Call α) :
    (g.perform c).grammar.rules.length =
      g.rules.length + if c.adds && (g.perform c).reply.isOk then 1 else 0 := by
  cases hc : c.adds with
  | false => simpa using (same_perform h hc).length_rules
  | true =>
    have heffect := effect_perform g c
    generalize (g.perform c).reply = reply, (g.perform c).grammar = g' at heffect ⊢
    cases heffect with
    | added => exact length_rules_added
    | illegalName | unknownTerm => rfl
    | _ => contradiction

theorem countP_construction_cons (g : Grammar α) (c : Call α) (calls : List (Call α)) :
    (g.construction (c :: calls)).countP Call.adds =
      ((g.perform c).grammar.construction calls).countP Call.adds +
        if c.adds && (g.perform c).reply.isOk then 1 else 0 := by
  rw [construction]
  cases hok : (g.perform c).reply.isOk with
  | false => simp
  | true => cases c <;> simp [Call.adds, Call.constructs, List.countP_cons]

theorem length_rules_performAll {g : Grammar α} (h : WellFormed g) (calls : List (Call α)) :
    (g.performAll calls).rules.length =
      g.rules.length + (g.construction calls).countP Call.adds := by
  induction calls generalizing g with
  | nil => rfl
  | cons c calls ih =>
    rw [performAll_cons, ih (h.change (change_perform g c)), length_rules_perform h,
      countP_construction_cons]
    omega

/-! ### Production 0 -/

def SetsStart (g : Grammar α) (calls : List (Call α)) : Prop :=
  ∃ before after, calls = before ++ .augment :: after ∧
    ((g.performAll before).perform .augment).reply = .ok .done

theorem setsStart_cons {g : Grammar α} {c : Call α} {calls : List (Call α)} :
    g.SetsStart (c :: calls) ↔
      c = .augment ∧ (g.perform .augment).reply = .ok .done ∨
        (g.perform c).grammar.SetsStart calls := by
  constructor
  · rintro ⟨before, after, hcalls, hreply⟩
    cases before with
    | nil =>
      obtain ⟨rfl, rfl⟩ := List.cons.inj hcalls
      exact .inl ⟨rfl, hreply⟩
    | cons d before =>
      obtain ⟨rfl, rfl⟩ := List.cons.inj hcalls
      exact .inr ⟨before, after, rfl, hreply⟩
  · rintro (⟨rfl, hreply⟩ | ⟨before, after, rfl, hreply⟩)
    · exact ⟨[], calls, rfl, hreply⟩
    · exact ⟨c :: before, after, rfl, hreply⟩

/-- Production 0, without its items, leads to the start symbol. -/
def Headed (g : Grammar α) : Prop :=
  g.augmented.map Production.bare =
    g.start.map fun s => ⟨0, augmentedName, [s], default, none, []⟩

theorem Headed.change {g g' : Grammar α} (hg : Headed g) (hc : Change g g') : Headed g' := by
  cases hc with
  | augmented hrules => rfl
  | items =>
    show (g.augmented.map (·.withItems g.productionsFor)).map Production.bare = _
    rw [Option.map_map]
    exact hg
  | @lookaheads number index edit g' hitem =>
    unfold editLookaheads? at hitem
    obtain ⟨i, -, rfl⟩ := Option.map_eq_some_iff.1 hitem
    cases number with
    | zero =>
      show (g.augmented.map (·.editLookaheads index edit)).map Production.bare = _
      rw [Option.map_map]
      exact hg
    | succ n => exact hg
  | _ => exact hg

theorem headed_performAll (names : List String) (calls : List (Call α)) :
    Headed ((ofTerminals names : Grammar α).performAll calls) := by
  have hbegin : Headed (ofTerminals names : Grammar α) := rfl
  exact performAll_induction (P := Headed) (fun _ _ hc hg => hg.change hc) hbegin calls

theorem start_perform (g : Grammar α) {c : Call α} (hc : c ≠ .augment) :
    (g.perform c).grammar.start = g.start := by
  have heffect := effect_perform g c
  generalize (g.perform c).reply = reply, (g.perform c).grammar = g' at heffect ⊢
  cases heffect with
  | augmented => contradiction
  | lookaheads hitem => exact (same_editLookaheads hitem).2.1
  | _ => rfl

theorem isSome_start_perform (g : Grammar α) (c : Call α) :
    (g.perform c).grammar.start.isSome = true ↔
      c = .augment ∧ (g.perform .augment).reply = .ok .done ∨ g.start.isSome = true := by
  by_cases hc : c = .augment
  · subst hc
    have heffect := effect_perform g .augment
    generalize (g.perform .augment).reply = reply, (g.perform .augment).grammar = g' at heffect ⊢
    cases heffect with
    | noRules => simp
    | augmented => simp [augmentedWith]
  · rw [start_perform g hc]
    simp [hc]

theorem isSome_start_performAll (g : Grammar α) (calls : List (Call α)) :
    (g.performAll calls).start.isSome = true ↔ g.SetsStart calls ∨ g.start.isSome = true := by
  induction calls generalizing g with
  | nil => simp [SetsStart]
  | cons c calls ih =>
    rw [performAll_cons, ih, setsStart_cons, isSome_start_perform]
    tauto

/-! ### Numbers -/

section Numbers

variable {g : Grammar α}

theorem Headed.isSome_augmented (hg : Headed g) : g.augmented.isSome = g.start.isSome := by
  have h := congrArg Option.isSome hg
  rwa [Option.isSome_map, Option.isSome_map] at h

theorem Headed.map_symbols (hg : Headed g) :
    g.augmented.map Production.symbols = g.start.map fun s => [s] := by
  have h := congrArg (Option.map Production.symbols) hg
  rwa [Option.map_map, Option.map_map] at h

theorem Headed.exists_symbols (hg : Headed g) {p : Production α} (hp : g.augmented = some p) :
    ∃ s, g.start = some s ∧ p.symbols = [s] := by
  have h := hg.map_symbols
  rw [hp, Option.map_some] at h
  obtain ⟨s, hs, hsymbols⟩ := Option.map_eq_some_iff.1 h.symm
  exact ⟨s, hs, hsymbols.symm⟩

theorem Headed.number_eq (hg : Headed g) {p : Production α} (hp : g.augmented = some p) :
    p.number = 0 := by
  rw [Headed, hp, Option.map_some] at hg
  obtain ⟨s, -, hs⟩ := Option.map_eq_some_iff.1 hg.symm
  exact (congrArg Production.number hs).symm

theorem WellFormed.number_eq (h : WellFormed g) {n : Nat} {p : Production α}
    (hp : g.production? (n + 1) = some p) : p ∈ g.rules ∧ p.number = n + 1 := by
  have hrule : g.rules[n]? = some p := hp
  obtain ⟨hn, rfl⟩ := List.getElem?_eq_some_iff.1 hrule
  have hnumber : (g.rules.map Production.number)[n]? = some (n + 1) := by
    rw [h.numbered]
    simp [hn]
  rw [List.getElem?_map, hrule, Option.map_some, Option.some.injEq] at hnumber
  exact ⟨List.getElem_mem hn, hnumber⟩

theorem WellFormed.mem_rules_iff (h : WellFormed g) {p : Production α} :
    p ∈ g.rules ↔ ∃ n, g.production? (n + 1) = some p := by
  constructor
  · intro hp
    obtain ⟨n, hn, rfl⟩ := List.getElem_of_mem hp
    exact ⟨n, List.getElem?_eq_getElem hn⟩
  · rintro ⟨n, hp⟩
    exact (h.number_eq hp).1

theorem isSome_production?_succ (g : Grammar α) (n : Nat) :
    (g.production? (n + 1)).isSome = true ↔ n < g.rules.length := by
  show g.rules[n]?.isSome = true ↔ n < g.rules.length
  simp

theorem productions_eq (g : Grammar α) :
    g.productions = (List.range (g.rules.length + 1)).filterMap g.production? := by
  have hrules (rules : List (Production α)) :
      (List.range rules.length).filterMap (fun n => rules[n]?) = rules := by
    induction rules with
    | nil => rfl
    | cons p rules ih =>
      rw [List.length_cons, List.range_succ_eq_map, List.filterMap_cons, List.filterMap_map]
      exact congrArg (p :: ·) ih
  have hsucc : (List.range g.rules.length).filterMap (g.production? ∘ Nat.succ) = g.rules :=
    hrules g.rules
  rw [List.range_succ_eq_map, List.filterMap_cons, List.filterMap_map, hsucc, productions,
    production?]
  cases g.augmented <;> rfl

theorem WellFormed.pairwise_number (h : WellFormed g) :
    (g.rules.map Production.number).Pairwise (· < ·) := by
  rw [h.numbered, List.pairwise_map]
  exact List.pairwise_lt_range.imp fun hlt => by omega

theorem WellFormed.pairwise_productionsFor (h : WellFormed g) (name : String) :
    (g.productionsFor name).Pairwise (· < ·) := by
  rw [h.indexed name]
  exact h.pairwise_number.sublist (List.filter_sublist.map _)

theorem WellFormed.mem_productionsFor (h : WellFormed g) {name : String} {n : Nat} :
    n ∈ g.productionsFor name ↔ 0 < n ∧ ∃ p, g.production? n = some p ∧ p.name = name := by
  rw [h.indexed name, List.mem_map]
  constructor
  · rintro ⟨p, hp, rfl⟩
    obtain ⟨hp, hname⟩ := List.mem_filter.1 hp
    obtain ⟨n, hn⟩ := h.mem_rules_iff.1 hp
    refine ⟨?_, p, h.production?_number hp, of_decide_eq_true hname⟩
    rw [(h.number_eq hn).2]
    omega
  · rintro ⟨hn, p, hp, hname⟩
    obtain ⟨n, rfl⟩ := Nat.exists_eq_succ_of_ne_zero (Nat.ne_of_gt hn)
    obtain ⟨hmem, hnumber⟩ := h.number_eq hp
    exact ⟨p, List.mem_filter.2 ⟨hmem, decide_eq_true hname⟩, hnumber⟩

end Numbers

/-- After any calls, the terminals are the names given at the beginning and the one for errors, and
what else productions mention are the nonterminals. The productions have the numbers from one on,
with production 0 before them if the start symbol is set, and the index lists for every name the
numbers of its productions in ascending order. -/
theorem tables_agree (names : List String) (calls : List (Call α)) :
    let g := (ofTerminals names : Grammar α).performAll calls
    let count := ((ofTerminals names : Grammar α).construction calls).countP Call.adds
    g.terminals.names = (OrderedSet.ofList (names ++ [errorName])).toList ∧
    (∀ x, ¬ (g.isTerminal x = true ∧ g.isNonterminal x = true)) ∧
    (∀ x, g.isNonterminal x = true ↔ ∃ n p, g.production? (n + 1) = some p ∧
      (x = p.name ∨ x ∈ p.symbols ∧ g.isTerminal x = false)) ∧
    (∀ n, (g.production? (n + 1)).isSome = true ↔ n < count) ∧
    (∀ n p, g.production? n = some p → p.number = n) ∧
    ((g.production? 0).isSome = true ↔ (ofTerminals names : Grammar α).SetsStart calls) ∧
    g.productions = (List.range (count + 1)).filterMap g.production? ∧
    ∀ name, (g.productionsFor name).Pairwise (· < ·) ∧
      ∀ n, n ∈ g.productionsFor name ↔
        0 < n ∧ ∃ p, g.production? n = some p ∧ p.name = name := by
  intro g count
  have hbegin : WellFormed (ofTerminals names : Grammar α) := wellFormed_ofTerminals names
  have h : WellFormed g := wellFormed_performAll names calls
  have hheaded : Headed g := headed_performAll names calls
  have hcount : g.rules.length = count :=
    (length_rules_performAll hbegin calls).trans (Nat.zero_add count)
  refine ⟨?_, fun x hx => ?_, fun x => ?_, fun n => ?_, fun n p hp => ?_, ?_, ?_,
    fun name => ⟨h.pairwise_productionsFor name, fun n => h.mem_productionsFor⟩⟩
  · show g.terminals.names = _
    rw [terminals_performAll, ← SymbolTable.names_ofList, SymbolTable.ofList, List.foldl_append]
    rfl
  · rw [h.disjoint x hx.1] at hx
    exact Bool.false_ne_true hx.2
  · constructor
    · intro hx
      obtain ⟨hterm, p, hp, hm⟩ := (isNonterminal_performAll names calls x).1 hx
      obtain ⟨n, hn⟩ := h.mem_rules_iff.1 hp
      exact ⟨n, p, hn, hm.imp_right fun hx => ⟨hx, hterm⟩⟩
    · rintro ⟨n, p, hp, rfl | ⟨hx, hterm⟩⟩
      · exact h.defined p (h.number_eq hp).1
      · exact (h.known p (h.number_eq hp).1 x hx).resolve_left (Bool.eq_false_iff.1 hterm)
  · rw [isSome_production?_succ, hcount]
  · cases n with
    | zero => exact hheaded.number_eq hp
    | succ n => exact (h.number_eq hp).2
  · rw [show g.production? 0 = g.augmented from rfl, hheaded.isSome_augmented,
      isSome_start_performAll]
    simp [ofTerminals]
  · rw [← hcount]
    exact productions_eq g

end FrontEnd.Grammar
