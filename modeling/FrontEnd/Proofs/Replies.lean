import FrontEnd.Proofs.Numbering

namespace FrontEnd.Grammar

variable {α : Type}

theorem mem_construction_cons {g : Grammar α} {c d : Call α} {calls : List (Call α)} :
    d ∈ g.construction (c :: calls) ↔
      (d = c ∧ c.constructs = true ∧ (g.perform c).reply.isOk = true) ∨
        d ∈ (g.perform c).grammar.construction calls := by
  rw [construction, ← Bool.and_eq_true]
  cases c.constructs && (g.perform c).reply.isOk with
  | true => simp
  | false => simp

def Declares (g : Grammar α) (calls : List (Call α)) (term : String) : Prop :=
  ∃ assoc level, Call.declarePrecedence term assoc level ∈ g.construction calls

theorem declares_cons {g : Grammar α} {c : Call α} {calls : List (Call α)} {term : String} :
    g.Declares (c :: calls) term ↔
      (∃ assoc level, .declarePrecedence term assoc level = c ∧ (g.perform c).reply.isOk = true) ∨
        (g.perform c).grammar.Declares calls term := by
  simp only [Declares, mem_construction_cons, exists_or]
  apply or_congr_left
  constructor
  · rintro ⟨assoc, level, rfl, -, hok⟩
    exact ⟨assoc, level, rfl, hok⟩
  · rintro ⟨assoc, level, rfl, hok⟩
    exact ⟨assoc, level, rfl, rfl, hok⟩

theorem contains_precedences_perform (g : Grammar α) (c : Call α) (term : String) :
    (g.perform c).grammar.precedences.contains term = true ↔
      (∃ assoc level, .declarePrecedence term assoc level = c ∧ (g.perform c).reply.isOk = true) ∨
        g.precedences.contains term = true := by
  have heffect := effect_perform g c
  generalize (g.perform c).reply = reply, (g.perform c).grammar = g' at heffect ⊢
  cases heffect with
  | declared => simp [Grammar.declared, OrderedMap.contains_insert, Except.isOk, Except.toBool]
  | redefined | invalidAssoc => simp [Except.isOk, Except.toBool]
  | lookaheads hitem =>
    rw [editLookaheads_eq_some hitem]
    simp
  | _ => simp [Grammar.added, augmentedWith, withFirst, withFollow, buildItems]

theorem contains_precedences_performAll (g : Grammar α) (calls : List (Call α)) (term : String) :
    (g.performAll calls).precedences.contains term = true ↔
      g.Declares calls term ∨ g.precedences.contains term = true := by
  induction calls generalizing g with
  | nil => simp [Declares, construction]
  | cons c calls ih =>
    rw [performAll_cons, ih, contains_precedences_perform, declares_cons, or_left_comm, or_assoc]

theorem isEmpty_first_perform {g : Grammar α} (h : WellFormed g) (c : Call α) :
    (g.perform c).grammar.first.isEmpty = false ↔ .storeFirst = c ∨ g.first.isEmpty = false := by
  by_cases hc : .storeFirst = c
  · subst hc
    have hfirst : (g.perform .storeFirst).grammar.first.isEmpty = false := isEmpty_firstSets h
    simp [hfirst]
  · rw [first_perform g (Ne.symm hc)]
    simp [hc]

/-- There are FIRST sets once a call has stored any, as there is always one for the end mark. -/
theorem isEmpty_first_performAll {g : Grammar α} (h : WellFormed g) (calls : List (Call α)) :
    (g.performAll calls).first.isEmpty = false ↔
      .storeFirst ∈ calls ∨ g.first.isEmpty = false := by
  induction calls generalizing g with
  | nil => simp
  | cons c calls ih =>
    rw [performAll_cons, ih (h.change (change_perform g c)), isEmpty_first_perform h,
      List.mem_cons, or_left_comm, or_assoc]

section Answers

variable (g : Grammar α)

/-- The name is checked before the term. -/
theorem reply_addProduction (name : String) (symbols : List String) (action : Option α)
    (term : Option String) :
    let reply := (g.perform (.addProduction name symbols action term)).reply
    (reply = .error (.illegalRuleName name) ↔ g.isTerminal name = true) ∧
    (∀ t, reply = .error (.unknownPrecedence t) ↔
      g.isTerminal name = false ∧ term = some t ∧ g.precedences.contains t = false) ∧
    (reply = .ok (.number (g.rules.length + 1)) ↔
      g.isTerminal name = false ∧ ∀ t, term = some t → g.precedences.contains t = true) := by
  have heffect := effect_addProduction g name symbols action term
  generalize (g.perform _).reply = reply, (g.perform _).grammar = g' at heffect ⊢
  cases heffect with
  | illegalName hname => simp [hname]
  | unknownTerm hname hterm =>
    refine ⟨by simp [hname], fun t => ⟨?_, ?_⟩, by simp [hterm]⟩
    · rintro ⟨⟩
      exact ⟨hname, rfl, hterm⟩
    · rintro ⟨-, ⟨⟩, -⟩
      rfl
  | added hname hprec =>
    have hterm : ∀ t, term = some t → g.precedences.contains t = true := by
      rintro t rfl
      exact contains_of_precedenceOf hprec
    refine ⟨by simp [hname], fun t => ⟨?_, ?_⟩, by simpa [hname] using hterm⟩
    · rintro ⟨⟩
    · rintro ⟨-, ht, hnot⟩
      rw [hterm t ht] at hnot
      contradiction

/-- The term is checked before the associativity. -/
theorem reply_declarePrecedence (term assoc : String) (level : Nat) :
    let reply := (g.perform (.declarePrecedence term assoc level)).reply
    (reply = .error (.precedenceRedefined term) ↔ g.precedences.contains term = true) ∧
    (reply = .error (.invalidAssociativity assoc) ↔
      g.precedences.contains term = false ∧ assoc ∉ Assoc.all.map Assoc.text) ∧
    (reply = .ok .done ↔
      g.precedences.contains term = false ∧ assoc ∈ Assoc.all.map Assoc.text) := by
  have heffect := effect_declarePrecedence g term assoc level
  generalize (g.perform _).reply = reply, (g.perform _).grammar = g' at heffect ⊢
  cases heffect with
  | redefined hterm => simp [hterm]
  | invalidAssoc hterm hassoc => simp [hterm, hassoc]
  | @declared _ _ _ a hterm hassoc =>
    have hmem : assoc ∈ Assoc.all.map Assoc.text :=
      List.mem_map.2 ⟨a, by cases a <;> decide, hassoc⟩
    simp [hterm, hmem]

theorem reply_augment :
    ((g.perform .augment).reply = .error .emptyGrammar ↔ g.rules.length = 0) ∧
    ((g.perform .augment).reply = .ok .done ↔ 0 < g.rules.length) := by
  have heffect := effect_perform g .augment
  generalize (g.perform _).reply = reply, (g.perform _).grammar = g' at heffect ⊢
  cases heffect with
  | noRules hrules => simp [hrules]
  | augmented hrules => simp [hrules]

/-- The start symbol is asked for before the FIRST sets. -/
theorem reply_storeFollow :
    ((g.perform .storeFollow).reply = .error .noStartSymbol ↔ ¬ g.start.isSome = true) ∧
    ((g.perform .storeFollow).reply = .error .firstNotComputed ↔
      g.start.isSome = true ∧ ¬ g.first.isEmpty = false) ∧
    ((g.perform .storeFollow).reply = .ok .done ↔
      g.start.isSome = true ∧ g.first.isEmpty = false) := by
  have heffect := effect_perform g .storeFollow
  generalize (g.perform _).reply = reply, (g.perform _).grammar = g' at heffect ⊢
  cases heffect with
  | noStart hstart => simp [hstart]
  | noFirst hstart hfirst => simp [hstart, hfirst]
  | follow hstart hfirst => simp [hstart, hfirst]

end Answers

/-- After any calls, what the next one answers follows from what came before. Names are checked
before terms, terms before associativities, and the start symbol before the FIRST sets. A call that
fails leaves the grammar as it was. -/
theorem replies_of_run (names : List String) (calls : List (Call α)) :
    let g₀ := (ofTerminals names : Grammar α)
    let g := g₀.performAll calls
    let count := (g₀.construction calls).countP Call.adds
    let reserved := fun name => name ∈ names ∨ name = errorName
    let declared := g₀.Declares calls
    (∀ name symbols action term,
      let reply := (g.perform (.addProduction name symbols action term)).reply
      (reply = .error (.illegalRuleName name) ↔ reserved name) ∧
      (∀ t, reply = .error (.unknownPrecedence t) ↔
        ¬ reserved name ∧ term = some t ∧ ¬ declared t) ∧
      (reply = .ok (.number (count + 1)) ↔
        ¬ reserved name ∧ ∀ t, term = some t → declared t)) ∧
    (∀ term assoc level,
      let reply := (g.perform (.declarePrecedence term assoc level)).reply
      (reply = .error (.precedenceRedefined term) ↔ declared term) ∧
      (reply = .error (.invalidAssociativity assoc) ↔
        ¬ declared term ∧ assoc ∉ ["left", "right", "nonassoc"]) ∧
      (reply = .ok .done ↔ ¬ declared term ∧ assoc ∈ ["left", "right", "nonassoc"])) ∧
    ((g.perform .augment).reply = .error .emptyGrammar ↔ count = 0) ∧
    ((g.perform .augment).reply = .ok .done ↔ 0 < count) ∧
    ((g.perform .storeFollow).reply = .error .noStartSymbol ↔ ¬ g₀.SetsStart calls) ∧
    ((g.perform .storeFollow).reply = .error .firstNotComputed ↔
      g₀.SetsStart calls ∧ .storeFirst ∉ calls) ∧
    ((g.perform .storeFollow).reply = .ok .done ↔ g₀.SetsStart calls ∧ .storeFirst ∈ calls) ∧
    ∀ c e, (g.perform c).reply = .error e → (g.perform c).grammar = g := by
  intro g₀ g count reserved declared
  have hbegin : WellFormed g₀ := wellFormed_ofTerminals names
  have hreserved (name : String) : g.isTerminal name = true ↔ reserved name :=
    isTerminal_performAll names calls name
  have hdeclared (term : String) : g.precedences.contains term = true ↔ declared term :=
    (contains_precedences_performAll g₀ calls term).trans (or_iff_left (Bool.eq_false_iff.1 rfl))
  have hcount : g.rules.length = count :=
    (length_rules_performAll hbegin calls).trans (Nat.zero_add count)
  have hstarted : g.start.isSome = true ↔ g₀.SetsStart calls :=
    (isSome_start_performAll g₀ calls).trans (or_iff_left (Bool.eq_false_iff.1 rfl))
  have hfirst : g.first.isEmpty = false ↔ .storeFirst ∈ calls :=
    (isEmpty_first_performAll hbegin calls).trans (or_iff_left (Bool.ne_false_iff.2 rfl))
  refine ⟨fun name symbols action term => ?_, fun term assoc level => ?_, ?_⟩
  · have h := reply_addProduction g name symbols action term
    simp only [← Bool.not_eq_true, hreserved, hdeclared, hcount] at h
    exact h
  · have h := reply_declarePrecedence g term assoc level
    simp only [← Bool.not_eq_true, hdeclared] at h
    exact h
  · have haugment := reply_augment g
    have hfollow := reply_storeFollow g
    rw [hcount] at haugment
    rw [hstarted, hfirst] at hfollow
    exact ⟨haugment.1, haugment.2, hfollow.1, hfollow.2.1, hfollow.2.2, fun c e => grammar_of_error⟩

end FrontEnd.Grammar
