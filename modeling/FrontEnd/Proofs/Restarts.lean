import FrontEnd.Proofs.Numbering

namespace FrontEnd.Grammar

variable {α : Type}

/-- A start symbol is the name of the first production. -/
theorem WellFormed.exists_rules {g : Grammar α} (h : WellFormed g)
    (hstart : g.start.isSome = true) :
    ∃ p rest, g.rules = p :: rest ∧ g.start = some p.name := by
  obtain ⟨s, hs⟩ := Option.isSome_iff_exists.1 hstart
  have hfirst := h.started s hs
  cases hrules : g.rules with
  | nil =>
    rw [hrules] at hfirst
    contradiction
  | cons p rest =>
    rw [hrules] at hfirst
    exact ⟨p, rest, rfl, hs.trans hfirst.symm⟩

/-- Where the start symbol is set, another setting renews production 0 and nothing else. -/
theorem augmentedWith_of_start {g : Grammar α} (hheaded : Headed g) (hused : StartUsed g)
    {p : Production α} (hstart : g.start = some p.name) :
    g.augmentedWith p = { g with augmented := g.augmented.map Production.bare } := by
  have hused' : (g.nonterminals.uses? p.name).any (·.contains 0) = true := by
    rw [SymbolTable.any_contains_iff, hused p.name, if_pos hstart]
    exact Nat.one_pos
  rw [augmentedWith, if_pos hused', ← hstart, hheaded, hstart]
  rfl

def startHasItems (g : Grammar α) : Bool := g.augmented.any (0 < ·.items.length)

theorem map_bare_augmented_eq {g : Grammar α} :
    g.augmented.map Production.bare = g.augmented ↔ g.startHasItems = false := by
  unfold startHasItems
  cases g.augmented with
  | none => simp
  | some p =>
    obtain ⟨number, name, symbols, precedence, action, items⟩ := p
    cases items <;> simp [Production.bare]

theorem startHasItems_buildItems (g : Grammar α) :
    g.buildItems.startHasItems = g.augmented.isSome := by
  unfold startHasItems buildItems
  cases g.augmented <;> simp [Production.withItems]

theorem startHasItems_editLookaheads {g g' : Grammar α} {number index : Nat}
    {edit : OrderedMap Nat (List String) → OrderedMap Nat (List String)}
    (h : g.editLookaheads? number index edit = some g') : g'.startHasItems = g.startHasItems := by
  unfold editLookaheads? at h
  obtain ⟨i, -, rfl⟩ := Option.map_eq_some_iff.1 h
  cases number with
  | zero =>
    unfold startHasItems
    cases g.augmented <;> simp [Production.editLookaheads]
  | succ n => rfl

/-- Building gives items to production 0 if it is there, and only setting the start symbol takes
them away. -/
theorem startHasItems_perform {g : Grammar α} (h : WellFormed g) (hheaded : Headed g) (c : Call α) :
    (g.perform c).grammar.startHasItems = true ↔
      .buildItems = c ∧ g.start.isSome = true ∨ .augment ≠ c ∧ g.startHasItems = true := by
  have hsome : g.startHasItems = true → g.start.isSome = true := by
    rw [← hheaded.isSome_augmented, startHasItems]
    cases g.augmented <;> simp
  have heffect := effect_perform g c
  generalize (g.perform c).reply = reply, (g.perform c).grammar = g' at heffect ⊢
  cases heffect with
  | noRules hrules =>
    -- without productions there is no start symbol either
    have hnot : ¬ g.start.isSome = true := by
      intro hstart
      obtain ⟨p, rest, hrules', -⟩ := h.exists_rules hstart
      rw [hrules] at hrules'
      contradiction
    simpa using mt hsome hnot
  | augmented hrules => simp [startHasItems, augmentedWith]
  | items =>
    rw [startHasItems_buildItems, hheaded.isSome_augmented]
    simpa using hsome
  | lookaheads hitem => simp [startHasItems_editLookaheads hitem]
  | _ => simp [startHasItems, Grammar.added, declared, withFirst, withFollow]

/-- Items are built, and the start symbol is not set after that. -/
def BuildsLast (calls : List (Call α)) : Prop :=
  ∃ before after, calls = before ++ .buildItems :: after ∧ .augment ∉ after

theorem buildsLast_concat {calls : List (Call α)} {c : Call α} :
    BuildsLast (calls ++ [c]) ↔ .buildItems = c ∨ .augment ≠ c ∧ BuildsLast calls := by
  constructor
  · rintro ⟨before, after, hcalls, hnot⟩
    rcases List.eq_nil_or_concat after with rfl | ⟨after, d, rfl⟩
    · obtain ⟨-, hc⟩ := List.append_inj' hcalls rfl
      exact .inl (List.singleton_inj.1 hc).symm
    · rw [List.concat_eq_append, ← List.cons_append, ← List.append_assoc] at hcalls
      obtain ⟨rfl, hc⟩ := List.append_inj' hcalls rfl
      obtain rfl := List.singleton_inj.1 hc
      rw [List.concat_eq_append, List.mem_append, List.mem_singleton, not_or] at hnot
      exact .inr ⟨hnot.2, before, after, rfl, hnot.1⟩
  · rintro (rfl | ⟨hne, before, after, rfl, hnot⟩)
    · exact ⟨calls, [], rfl, List.not_mem_nil⟩
    · refine ⟨before, after ++ [c], by simp, ?_⟩
      rw [List.mem_append, List.mem_singleton]
      exact not_or_intro hnot hne

theorem startHasItems_performAll (names : List String) (calls : List (Call α)) :
    ((ofTerminals names : Grammar α).performAll calls).startHasItems = true ↔
      ((ofTerminals names : Grammar α).performAll calls).start.isSome = true ∧
        BuildsLast calls := by
  induction calls using List.reverseRecOn with
  | nil => simp [startHasItems, ofTerminals]
  | append_singleton calls c ih =>
    rw [performAll_append, performAll_cons, performAll_nil, startHasItems_perform
      (wellFormed_performAll names calls) (headed_performAll names calls), ih,
      isSome_start_perform, buildsLast_concat]
    by_cases hc : .augment = c
    · subst hc
      simp
    · simp only [Ne.symm hc]
      tauto

/-- A start symbol that calls have set can be set again. That changes nothing but the items of
production 0, which are lost, so it changes nothing at all if no items have been built since the
last time. -/
theorem augment_again (names : List String) (calls : List (Call α))
    (hstarted : (ofTerminals names : Grammar α).SetsStart calls) :
    let g := (ofTerminals names : Grammar α).performAll calls
    let again := g.perform .augment
    again.reply = .ok .done ∧
    again.grammar = { g with augmented := g.augmented.map Production.bare } ∧
    (again.grammar = g ↔
      ¬ ∃ before after, calls = before ++ .buildItems :: after ∧ .augment ∉ after) := by
  intro g again
  have h : WellFormed g := wellFormed_performAll names calls
  have hheaded : Headed g := headed_performAll names calls
  have hstart : g.start.isSome = true := (isSome_start_performAll _ calls).2 (.inl hstarted)
  obtain ⟨p, rest, hrules, hname⟩ := h.exists_rules hstart
  have hagain : again = ⟨.ok .done, [.startSet p.name], g.augmentedWith p⟩ := perform_augment hrules
  have hrenewed : again.grammar = { g with augmented := g.augmented.map Production.bare } := by
    rw [hagain]
    exact augmentedWith_of_start hheaded (startUsed_performAll names calls) hname
  have hsame : again.grammar = g ↔ g.augmented.map Production.bare = g.augmented := by
    rw [hrenewed]
    exact ⟨congrArg Grammar.augmented, fun h => by rw [h]⟩
  have hitems : g.startHasItems = true ↔ BuildsLast calls :=
    (startHasItems_performAll names calls).trans (and_iff_right hstart)
  refine ⟨congrArg Performed.reply hagain, hrenewed, ?_⟩
  rw [hsame, map_bare_augmented_eq, ← Bool.not_eq_true, hitems]
  rfl

/-- Items that were built before the start symbol was set again do not count. -/
theorem augment_again_before_items :
    let calls : List (Call Unit) := [.addProduction "s" ["s", "A"] none none, .augment, .buildItems,
      .setLookaheads 0 1 3 ["$end"], .augment, .storeFirst, .addProduction "s" [] none none]
    let g := (ofTerminals ["A"]).performAll calls
    (ofTerminals ["A"]).SetsStart calls ∧ (g.perform .augment).reply = .ok .done ∧
      (g.perform .augment).grammar = g := by
  intro calls g
  have hstarted : (ofTerminals ["A"]).SetsStart calls :=
    ⟨[.addProduction "s" ["s", "A"] none none], _, rfl, rfl⟩
  obtain ⟨hreply, hrenewed, -⟩ := augment_again ["A"] calls hstarted
  exact ⟨hstarted, hreply, hrenewed⟩

/-- The items of production 0 and the lookaheads written to them are lost when the start symbol is
set again. -/
theorem augment_again_loses_items :
    let calls : List (Call Unit) := [.addProduction "s" ["A"] none none, .augment, .buildItems,
      .setLookaheads 0 1 3 ["$end"]]
    let g := (ofTerminals ["A"]).performAll calls
    (ofTerminals ["A"]).SetsStart calls ∧ (g.perform .augment).reply = .ok .done ∧
      (g.chain 0).map (fun i => (i.index, i.lookaheads.get? 3)) = [(0, none), (1, some ["$end"])] ∧
      (g.perform .augment).grammar.chain 0 = [] := by
  intro calls g
  exact ⟨⟨[.addProduction "s" ["A"] none none], _, rfl, rfl⟩, rfl, rfl, rfl⟩

end FrontEnd.Grammar
