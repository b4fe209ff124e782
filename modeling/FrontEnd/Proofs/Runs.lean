import FrontEnd.Grammar.Call

namespace FrontEnd

namespace SymbolTable

def recordAll (t : SymbolTable) (symbols : List String) (production : Nat) : SymbolTable :=
  symbols.foldl (·.record · production) t

theorem recordAll_eq_performAll (t : SymbolTable) (symbols : List String) (production : Nat) :
    t.recordAll symbols production = t.performAll (symbols.map (.record · production)) := by
  rw [performAll, List.foldl_map]
  rfl

theorem mem_names_recordAll {t : SymbolTable} {symbols : List String} {production : Nat}
    {x : String} : x ∈ (t.recordAll symbols production).names ↔ x ∈ t.names ∨ x ∈ symbols := by
  have hsymbols : (symbols.map (Call.record · production)).map Call.symbol = symbols := by
    rw [List.map_map]
    exact List.map_id symbols
  rw [recordAll_eq_performAll, mem_names_performAll, hsymbols]

theorem names_recordAll {t : SymbolTable} {symbols : List String} (production : Nat)
    (h : ∀ x ∈ symbols, x ∈ t.names) : (t.recordAll symbols production).names = t.names := by
  induction symbols generalizing t with
  | nil => rfl
  | cons s symbols ih =>
    have hs : (t.record s production).names = t.names := by
      rw [names_record, if_pos (h s List.mem_cons_self)]
    exact (ih fun x hx => hs ▸ h x (List.mem_cons_of_mem s hx)).trans hs

end SymbolTable

def Production.bare {α : Type} (p : Production α) : Production α := { p with items := [] }

namespace Grammar

open Update

variable {α : Type}

/-! ### What a call does -/

def added (g : Grammar α) (name : String) (symbols : List String) (action : Option α)
    (precedence : Precedence) : Grammar α :=
  let number := g.rules.length + 1
  { g with
    terminals := g.terminals.recordAll (symbols.filter g.isTerminal) number
    nonterminals := (g.nonterminals.add name).2.recordAll (symbols.filter (!g.isTerminal ·)) number
    rules := g.rules ++ [⟨number, name, symbols, precedence, action, []⟩]
    definitions := g.definitions.update name fun numbers => numbers.getD [] ++ [number] }

theorem isTerminal_iff {g : Grammar α} {x : String} :
    g.isTerminal x = true ↔ x ∈ g.terminals.names :=
  SymbolTable.contains_iff

theorem isNonterminal_iff {g : Grammar α} {x : String} :
    g.isNonterminal x = true ↔ x ∈ g.nonterminals.names :=
  SymbolTable.contains_iff

theorem isTerminal_congr {g g' : Grammar α} (h : g'.terminals.names = g.terminals.names) :
    g'.isTerminal = g.isTerminal := by
  funext x
  rw [Bool.eq_iff_iff, isTerminal_iff, isTerminal_iff, h]

theorem ne_of_isTerminal {g : Grammar α} {x y : String} (hx : g.isTerminal x = true)
    (hy : g.isTerminal y = false) : x ≠ y := by
  rintro rfl
  exact Bool.false_ne_true (hy.symm.trans hx)

theorem foldl_recordUse (g : Grammar α) (number : Nat) (symbols : List String) :
    symbols.foldl (recordUse · number) g =
      { g with
        terminals := g.terminals.recordAll (symbols.filter g.isTerminal) number
        nonterminals := g.nonterminals.recordAll (symbols.filter (!g.isTerminal ·)) number } := by
  induction symbols generalizing g with
  | nil => rfl
  | cons s symbols ih =>
    rw [List.foldl_cons, ih]
    -- recording a use makes no symbol a terminal, so the others still go where they would have gone
    by_cases hs : g.isTerminal s = true
    · have hnames : (g.terminals.record s number).names = g.terminals.names := by
        rw [SymbolTable.names_record, if_pos (isTerminal_iff.1 hs)]
      have hsame : (g.recordUse number s).isTerminal = g.isTerminal := by
        apply isTerminal_congr
        rw [recordUse, if_pos hs]
        exact hnames
      rw [hsame, recordUse, if_pos hs]
      simp [hs, SymbolTable.recordAll]
    · have hsame : (g.recordUse number s).isTerminal = g.isTerminal := by
        apply isTerminal_congr
        rw [recordUse, if_neg hs]
      rw [hsame, recordUse, if_neg hs]
      simp [hs, SymbolTable.recordAll]

/-- Without a term there is always a precedence. -/
theorem precedenceOf_eq_error {g : Grammar α} {symbols : List String} {term : Option String}
    {e : BuildError} (h : g.precedenceOf symbols term = .error e) :
    ∃ t, term = some t ∧ g.precedences.contains t = false ∧ e = .unknownPrecedence t := by
  cases term with
  | none => contradiction
  | some t =>
    rw [precedenceOf] at h
    split at h
    · contradiction
    · rename_i ht
      refine ⟨t, rfl, ?_, (Except.error.inj h).symm⟩
      rw [OrderedMap.contains_eq_isSome, ht, Option.isSome_none]

theorem contains_of_precedenceOf {g : Grammar α} {symbols : List String} {t : String}
    {precedence : Precedence} (h : g.precedenceOf symbols (some t) = .ok precedence) :
    g.precedences.contains t = true := by
  rw [precedenceOf] at h
  split at h
  · rename_i ht
    rw [OrderedMap.contains_eq_isSome, ht, Option.isSome_some]
  · contradiction

def augmentedWith (g : Grammar α) (p : Production α) : Grammar α :=
  { g with
    augmented := some ⟨0, augmentedName, [p.name], default, none, []⟩
    nonterminals :=
      if (g.nonterminals.uses? p.name).any (·.contains 0) then g.nonterminals
      else g.nonterminals.record p.name 0
    start := some p.name }

def declared (g : Grammar α) (term : String) (p : Precedence) : Grammar α :=
  { g with precedences := g.precedences.insert term p }

def withFirst (g : Grammar α) : Grammar α := { g with first := g.firstSets.1 }

def withFollow (g : Grammar α) (start : String) : Grammar α :=
  { g with follow := (g.followSets start).1 }

inductive Change (g : Grammar α) : Grammar α → Prop where
  | unchanged : Change g g
  | added {name symbols action term precedence} (hname : g.isTerminal name = false)
      (hprec : g.precedenceOf symbols term = .ok precedence) :
      Change g (g.added name symbols action precedence)
  | declared {term precedence} (hterm : g.precedences.contains term = false) :
      Change g (g.declared term precedence)
  | augmented {p rest} (hrules : g.rules = p :: rest) : Change g (g.augmentedWith p)
  | first : Change g g.withFirst
  | follow {start} (hstart : g.start = some start) (hfirst : g.first.isEmpty = false) :
      Change g (g.withFollow start)
  | items : Change g g.buildItems
  | lookaheads {number index edit g'} (hitem : g.editLookaheads? number index edit = some g') :
      Change g g'

/-! ### What the operations come to -/

section Run

variable {g : Grammar α} {es : List Event}

section AddProduction

variable {name : String} {symbols : List String} {action : Option α} {term : Option String}

theorem run_addProduction_of_isTerminal (hname : g.isTerminal name = true) :
    (addProduction name symbols action term).run ⟨g, es⟩ =
      .error (.illegalRuleName name) ⟨g, es⟩ := by
  simp [addProduction, hname]

theorem run_addProduction_of_error {e : BuildError} (hname : g.isTerminal name = false)
    (hprec : g.precedenceOf symbols term = .error e) :
    (addProduction name symbols action term).run ⟨g, es⟩ = .error e ⟨g, es⟩ := by
  simp [addProduction, hname, hprec]

/-- Once both checks are passed, nothing can fail. -/
theorem run_addProduction {precedence : Precedence} (hname : g.isTerminal name = false)
    (hprec : g.precedenceOf symbols term = .ok precedence) :
    let number := g.rules.length + 1
    let p : Production α := ⟨number, name, symbols, precedence, action, []⟩
    (addProduction name symbols action term).run ⟨g, es⟩ =
      .ok number ⟨g.added name symbols action precedence,
        es ++ [.productionAdded number (toString p) precedence]⟩ := by
  simp only [addProduction, hname, hprec, EStateM.run_bind, run_current, run_ofExcept_ok,
    run_change, run_log, run_forM_change, foldl_recordUse, Bool.false_eq_true, if_false]
  rfl

end AddProduction

section DeclarePrecedence

variable {term assoc : String} {level : Nat}

theorem run_declarePrecedence_of_contains (hterm : g.precedences.contains term = true) :
    (declarePrecedence term assoc level).run ⟨g, es⟩ =
      .error (.precedenceRedefined term) ⟨g, es⟩ := by
  simp [declarePrecedence, hterm]

theorem run_declarePrecedence_of_error {e : BuildError}
    (hterm : g.precedences.contains term = false) (ha : Assoc.ofText assoc = .error e) :
    (declarePrecedence term assoc level).run ⟨g, es⟩ = .error e ⟨g, es⟩ := by
  simp [declarePrecedence, hterm, ha]

theorem run_declarePrecedence {a : Assoc} (hterm : g.precedences.contains term = false)
    (ha : Assoc.ofText assoc = .ok a) :
    (declarePrecedence term assoc level).run ⟨g, es⟩ =
      .ok () ⟨g.declared term ⟨a, level⟩, es⟩ := by
  simp [declarePrecedence, declared, hterm, ha]

end DeclarePrecedence

theorem run_augment_of_nil (hrules : g.rules = []) :
    augment.run ⟨g, es⟩ = .error .emptyGrammar ⟨g, es⟩ := by
  simp [augment, hrules]

theorem run_augment {p : Production α} {rest : List (Production α)} (hrules : g.rules = p :: rest) :
    augment.run ⟨g, es⟩ = .ok () ⟨g.augmentedWith p, es ++ [.startSet p.name]⟩ := by
  have hhead : g.rules.head? = some p := by rw [hrules, List.head?_cons]
  simp only [augment, augmentedWith, hhead, EStateM.run_bind, run_current, run_change]
  -- by cases of whether production 0 is known to use the start symbol
  split
  · rfl
  · rfl

theorem run_storeFollow_of_none (hstart : g.start = none) :
    storeFollow.run ⟨g, es⟩ = .error .noStartSymbol ⟨g, es⟩ := by
  simp [storeFollow, hstart]

theorem run_storeFollow_of_isEmpty {start : String} (hstart : g.start = some start)
    (hfirst : g.first.isEmpty = true) :
    storeFollow.run ⟨g, es⟩ = .error .firstNotComputed ⟨g, es⟩ := by
  simp [storeFollow, hstart, hfirst]

theorem run_storeFollow {start : String} (hstart : g.start = some start)
    (hfirst : g.first.isEmpty = false) :
    storeFollow.run ⟨g, es⟩ =
      .ok () ⟨g.withFollow start, es ++ [.followSettled (g.followSets start).2]⟩ := by
  simp [storeFollow, withFollow, hstart, hfirst]

end Run

/-- What a call answers and leaves, case by case. -/
inductive Effect (g : Grammar α) : Call α → Except BuildError Reply → Grammar α → Prop where
  | illegalName {name symbols action term} (hname : g.isTerminal name = true) :
      Effect g (.addProduction name symbols action term) (.error (.illegalRuleName name)) g
  | unknownTerm {name symbols action term} (hname : g.isTerminal name = false)
      (hterm : g.precedences.contains term = false) :
      Effect g (.addProduction name symbols action (some term)) (.error (.unknownPrecedence term)) g
  | added {name symbols action term precedence} (hname : g.isTerminal name = false)
      (hprec : g.precedenceOf symbols term = .ok precedence) :
      Effect g (.addProduction name symbols action term) (.ok (.number (g.rules.length + 1)))
        (g.added name symbols action precedence)
  | redefined {term assoc level} (hterm : g.precedences.contains term = true) :
      Effect g (.declarePrecedence term assoc level) (.error (.precedenceRedefined term)) g
  | invalidAssoc {term assoc level} (hterm : g.precedences.contains term = false)
      (hassoc : assoc ∉ Assoc.all.map Assoc.text) :
      Effect g (.declarePrecedence term assoc level) (.error (.invalidAssociativity assoc)) g
  | declared {term assoc level a} (hterm : g.precedences.contains term = false)
      (hassoc : Assoc.text a = assoc) :
      Effect g (.declarePrecedence term assoc level) (.ok .done) (g.declared term ⟨a, level⟩)
  | noRules (hrules : g.rules = []) : Effect g .augment (.error .emptyGrammar) g
  | augmented {p rest} (hrules : g.rules = p :: rest) :
      Effect g .augment (.ok .done) (g.augmentedWith p)
  | first : Effect g .storeFirst (.ok .done) g.withFirst
  | noStart (hstart : g.start = none) : Effect g .storeFollow (.error .noStartSymbol) g
  | noFirst {start} (hstart : g.start = some start) (hfirst : g.first.isEmpty = true) :
      Effect g .storeFollow (.error .firstNotComputed) g
  | follow {start} (hstart : g.start = some start) (hfirst : g.first.isEmpty = false) :
      Effect g .storeFollow (.ok .done) (g.withFollow start)
  | items : Effect g .buildItems (.ok .done) g.buildItems
  | lookaheads {number index edit g'} (hitem : g.editLookaheads? number index edit = some g') :
      Effect g (.editLookaheads number index edit) (.ok (.found true)) g'
  | noItem {number index edit} (hitem : g.editLookaheads? number index edit = none) :
      Effect g (.editLookaheads number index edit) (.ok (.found false)) g
  | warned : Effect g .warnUnused (.ok (.number g.warnings.length)) g

section Perform

variable {g : Grammar α}

theorem perform_addProduction {name : String} {symbols : List String} {action : Option α}
    {term : Option String} {precedence : Precedence} (hname : g.isTerminal name = false)
    (hprec : g.precedenceOf symbols term = .ok precedence) :
    let number := g.rules.length + 1
    let p : Production α := ⟨number, name, symbols, precedence, action, []⟩
    g.perform (.addProduction name symbols action term) =
      ⟨.ok (.number number), [.productionAdded number (toString p) precedence],
        g.added name symbols action precedence⟩ := by
  simp only [perform, Call.program, EStateM.run_bind, run_addProduction hname hprec,
    EStateM.run_pure, List.nil_append]

theorem perform_declarePrecedence {term assoc : String} {level : Nat} {a : Assoc}
    (hterm : g.precedences.contains term = false) (ha : Assoc.ofText assoc = .ok a) :
    g.perform (.declarePrecedence term assoc level) =
      ⟨.ok .done, [], g.declared term ⟨a, level⟩⟩ := by
  simp only [perform, Call.program, EStateM.run_bind, run_declarePrecedence hterm ha,
    EStateM.run_pure]

theorem perform_augment {p : Production α} {rest : List (Production α)} (h : g.rules = p :: rest) :
    g.perform .augment = ⟨.ok .done, [.startSet p.name], g.augmentedWith p⟩ := by
  simp only [perform, Call.program, EStateM.run_bind, run_augment h, EStateM.run_pure,
    List.nil_append]

theorem perform_storeFirst (g : Grammar α) :
    g.perform .storeFirst = ⟨.ok .done, [.firstSettled g.firstSets.2], g.withFirst⟩ := rfl

theorem perform_storeFollow {start : String} (hstart : g.start = some start)
    (hfirst : g.first.isEmpty = false) :
    g.perform .storeFollow =
      ⟨.ok .done, [.followSettled (g.followSets start).2], g.withFollow start⟩ := by
  simp only [perform, Call.program, EStateM.run_bind, run_storeFollow hstart hfirst,
    EStateM.run_pure, List.nil_append]

theorem perform_warnUnused (g : Grammar α) :
    g.perform .warnUnused = ⟨.ok (.number g.warnings.length), g.warnings, g⟩ := by
  simp only [perform, Call.program, EStateM.run_bind, run_current, run_forM_log, EStateM.run_pure,
    List.nil_append]

end Perform

theorem effect_addProduction (g : Grammar α) (name : String) (symbols : List String)
    (action : Option α) (term : Option String) :
    Effect g (.addProduction name symbols action term)
      (g.perform (.addProduction name symbols action term)).reply
      (g.perform (.addProduction name symbols action term)).grammar := by
  cases hname : g.isTerminal name with
  | true =>
    simp only [perform, Call.program, EStateM.run_bind, run_addProduction_of_isTerminal hname]
    exact .illegalName hname
  | false =>
    cases hprec : g.precedenceOf symbols term with
    | error e =>
      simp only [perform, Call.program, EStateM.run_bind, run_addProduction_of_error hname hprec]
      obtain ⟨t, rfl, hterm, rfl⟩ := precedenceOf_eq_error hprec
      exact .unknownTerm hname hterm
    | ok precedence =>
      rw [perform_addProduction hname hprec]
      exact .added hname hprec

theorem effect_declarePrecedence (g : Grammar α) (term assoc : String) (level : Nat) :
    Effect g (.declarePrecedence term assoc level)
      (g.perform (.declarePrecedence term assoc level)).reply
      (g.perform (.declarePrecedence term assoc level)).grammar := by
  cases hterm : g.precedences.contains term with
  | true =>
    simp only [perform, Call.program, EStateM.run_bind, run_declarePrecedence_of_contains hterm]
    exact .redefined hterm
  | false =>
    by_cases hassoc : assoc ∈ Assoc.all.map Assoc.text
    · obtain ⟨a, -, ha⟩ := List.mem_map.1 hassoc
      rw [perform_declarePrecedence hterm (ha ▸ Assoc.ofText_text a)]
      exact .declared hterm ha
    · simp only [perform, Call.program, EStateM.run_bind,
        run_declarePrecedence_of_error hterm (Assoc.ofText_of_not_mem hassoc)]
      exact .invalidAssoc hterm hassoc

theorem effect_perform (g : Grammar α) (c : Call α) :
    Effect g c (g.perform c).reply (g.perform c).grammar := by
  cases c with
  | addProduction name symbols action term => exact effect_addProduction g name symbols action term
  | declarePrecedence term assoc level => exact effect_declarePrecedence g term assoc level
  | augment =>
    cases hrules : g.rules with
    | nil =>
      simp only [perform, Call.program, EStateM.run_bind, run_augment_of_nil hrules]
      exact .noRules hrules
    | cons p rest =>
      rw [perform_augment hrules]
      exact .augmented hrules
  | storeFirst => exact .first
  | storeFollow =>
    cases hstart : g.start with
    | none =>
      simp only [perform, Call.program, EStateM.run_bind, run_storeFollow_of_none hstart]
      exact .noStart hstart
    | some start =>
      cases hfirst : g.first.isEmpty with
      | true =>
        simp only [perform, Call.program, EStateM.run_bind,
          run_storeFollow_of_isEmpty hstart hfirst]
        exact .noFirst hstart hfirst
      | false =>
        rw [perform_storeFollow hstart hfirst]
        exact .follow hstart hfirst
  | buildItems => exact .items
  | editLookaheads number index edit =>
    cases hitem : g.editLookaheads? number index edit with
    | none =>
      simp only [perform, Call.program, EStateM.run_bind, run_current, hitem, EStateM.run_pure]
      exact .noItem hitem
    | some g' =>
      simp only [perform, Call.program, EStateM.run_bind, run_current, hitem, run_change,
        EStateM.run_pure]
      exact .lookaheads hitem
  | warnUnused =>
    rw [perform_warnUnused]
    exact .warned

/-- A call that fails leaves the grammar as it was. -/
theorem grammar_of_error {g : Grammar α} {c : Call α} {e : BuildError}
    (h : (g.perform c).reply = .error e) : (g.perform c).grammar = g := by
  have heffect := effect_perform g c
  rw [h] at heffect
  generalize (g.perform c).grammar = g' at heffect
  cases heffect <;> rfl

theorem perform_storeFollow_of_not_error {g : Grammar α}
    (h : ∀ e, (g.perform .storeFollow).reply ≠ .error e) :
    ∃ start, g.start = some start ∧
      g.perform .storeFollow =
        ⟨.ok .done, [.followSettled (g.followSets start).2], g.withFollow start⟩ := by
  have heffect := effect_perform g .storeFollow
  generalize (g.perform .storeFollow).reply = reply, (g.perform .storeFollow).grammar = g'
    at heffect h
  cases heffect with
  | noStart => exact absurd rfl (h _)
  | noFirst => exact absurd rfl (h _)
  | follow hstart hfirst => exact ⟨_, hstart, perform_storeFollow hstart hfirst⟩

theorem change_perform (g : Grammar α) (c : Call α) : Change g (g.perform c).grammar := by
  have heffect := effect_perform g c
  generalize (g.perform c).reply = reply, (g.perform c).grammar = g' at heffect
  cases heffect with
  | added hname hprec => exact .added hname hprec
  | declared hterm => exact .declared hterm
  | augmented hrules => exact .augmented hrules
  | first => exact .first
  | follow hstart hfirst => exact .follow hstart hfirst
  | items => exact .items
  | lookaheads hitem => exact .lookaheads hitem
  | _ => exact .unchanged

/-! ### Runs -/

/-- The grammar after a sequence of calls, those that fail included. -/
def performAll (g : Grammar α) (calls : List (Call α)) : Grammar α :=
  calls.foldl (fun g c => (g.perform c).grammar) g

@[simp] theorem performAll_nil (g : Grammar α) : g.performAll [] = g := rfl

@[simp] theorem performAll_cons (g : Grammar α) (c : Call α) (calls : List (Call α)) :
    g.performAll (c :: calls) = (g.perform c).grammar.performAll calls := rfl

theorem performAll_append (g : Grammar α) (calls calls' : List (Call α)) :
    g.performAll (calls ++ calls') = (g.performAll calls).performAll calls' :=
  List.foldl_append

theorem performAll_induction {P : Grammar α → Prop} (hstep : ∀ g g', Change g g' → P g → P g')
    {g : Grammar α} (hg : P g) (calls : List (Call α)) : P (g.performAll calls) := by
  induction calls generalizing g with
  | nil => exact hg
  | cons c calls ih => exact ih (hstep _ _ (change_perform g c) hg)

end Grammar
end FrontEnd
