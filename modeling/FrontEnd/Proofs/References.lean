import FrontEnd.Proofs.Chains

namespace FrontEnd

variable {α : Type}

/-! ### What becomes of a production -/

namespace Production

/-- What a call can do to the production under a number. -/
inductive Revised (definitions : String → List Nat) :
    Option (Production α) → Option (Production α) → Prop where
  | kept (o) : Revised definitions o o
  | added {p} (hitems : p.items = []) : Revised definitions none (some p)
  /-- Production 0 is made anew when the start symbol is set. -/
  | renewed (p) : Revised definitions (some p) (some p.bare)
  | built (p) : Revised definitions (some p) (some (p.withItems definitions))
  | edited (p) (index : Nat) (edit : OrderedMap Nat (List String) → OrderedMap Nat (List String)) :
      Revised definitions (some p) (some (p.editLookaheads index edit))

def Whole (p : Production α) : Prop := p.items = [] ∨ p.Chained

theorem Whole.exists_marks {p : Production α} (hp : p.Whole) {h : Item} (hh : h ∈ p.items) :
    ∃ i ≤ p.symbols.length, h.Marks p i := by
  obtain ⟨i, hi⟩ := List.mem_iff_getElem?.1 hh
  have hchained : p.Chained := hp.resolve_left (List.ne_nil_of_mem hh)
  exact ⟨i, hchained.le_of_getElem? hi, hchained.marks i h hi⟩

theorem Whole.editLookaheads {p : Production α} (hp : p.Whole) (index : Nat)
    (edit : OrderedMap Nat (List String) → OrderedMap Nat (List String)) :
    (p.editLookaheads index edit).Whole := by
  rcases hp with hnil | hchained
  · left
    simp [Production.editLookaheads, hnil]
  · right
    refine ⟨(List.length_modify ..).trans hchained.length, fun i h hh => ?_⟩
    rw [Production.editLookaheads, List.getElem?_modify] at hh
    obtain ⟨old, hold, rfl⟩ := Option.map_eq_some_iff.1 hh
    have hm := hchained.marks i old hold
    split
    · exact ⟨hm.number, hm.name, hm.before, hm.after⟩
    · exact ⟨hm.number, hm.name, hm.before, hm.after⟩

section Revised

variable {definitions : String → List Nat} {o o' : Option (Production α)}
  (h : Revised definitions o o')

include h

theorem Revised.bare_eq {p : Production α} (hp : o = some p) :
    ∃ q, o' = some q ∧ q.bare = p.bare := by
  subst hp
  cases h with
  | kept => exact ⟨p, rfl, rfl⟩
  | _ => exact ⟨_, rfl, rfl⟩

theorem Revised.whole (ho : ∀ p ∈ o, p.Whole) : ∀ q ∈ o', q.Whole := by
  rintro q rfl
  cases h with
  | kept => exact ho q rfl
  | added hitems => exact .inl hitems
  | renewed => exact .inl rfl
  | built p => exact .inr (p.chained_withItems _)
  | edited p => exact (ho p rfl).editLookaheads ..

end Revised

theorem eq_of_bare_eq {p q : Production α} (h : q.bare = p.bare) :
    q.number = p.number ∧ q.name = p.name ∧ q.symbols = p.symbols := by
  simp only [bare, Production.mk.injEq] at h
  exact ⟨h.1, h.2.1, h.2.2.1⟩

end Production

theorem Item.Marks.of_bare_eq {p q : Production α} {h : Item} {i : Nat} (hm : h.Marks p i)
    (hbare : q.bare = p.bare) : h.Marks q i := by
  obtain ⟨hnumber, hname, hsymbols⟩ := Production.eq_of_bare_eq hbare
  exact ⟨hm.number.trans hnumber.symm, hm.name.trans hname.symm, hsymbols ▸ hm.before,
    hsymbols ▸ hm.after⟩

namespace Grammar

/-! ### What a call does under a number -/

theorem production?_editLookaheads {g g' : Grammar α} {number index : Nat}
    {edit : OrderedMap Nat (List String) → OrderedMap Nat (List String)}
    (h : g.editLookaheads? number index edit = some g') (n : Nat) :
    g'.production? n = (g.production? n).map fun p =>
      if number = n then p.editLookaheads index edit else p := by
  unfold editLookaheads? at h
  obtain ⟨i, -, rfl⟩ := Option.map_eq_some_iff.1 h
  cases number with
  | zero => cases n <;> simp [production?]
  | succ m => cases n <;> simp [production?, List.getElem?_modify]

section Revised

variable {g : Grammar α}

theorem revised_added (name : String) (symbols : List String) (action : Option α)
    (precedence : Precedence) (n : Nat) :
    Production.Revised g.productionsFor (g.production? n)
      ((g.added name symbols action precedence).production? n) := by
  cases n with
  | zero => exact .kept _
  | succ n =>
    show Production.Revised _ g.rules[n]? (g.rules ++ [_])[n]?
    rcases Nat.lt_trichotomy n g.rules.length with hlt | rfl | hgt
    · rw [List.getElem?_append_left hlt]
      exact .kept _
    · rw [List.getElem?_concat_length, List.getElem?_eq_none (Nat.le_refl _)]
      exact .added rfl
    · rw [List.getElem?_append_right (Nat.le_of_lt hgt), List.getElem?_eq_none (Nat.le_of_lt hgt),
        List.getElem?_eq_none (by rw [List.length_singleton]; omega)]
      exact .kept _

/-- If production 0 is there, the new one is like it. -/
theorem revised_augmentedWith (h : WellFormed g) (hheaded : Headed g) {p : Production α}
    {rest : List (Production α)} (hrules : g.rules = p :: rest) (n : Nat) :
    Production.Revised g.productionsFor (g.production? n) ((g.augmentedWith p).production? n) := by
  cases n with
  | zero =>
    show Production.Revised _ g.augmented (some ⟨0, augmentedName, [p.name], default, none, []⟩)
    cases haugmented : g.augmented with
    | none => exact .added rfl
    | some q =>
      rw [Headed, haugmented] at hheaded
      obtain ⟨s, hs, hq⟩ := Option.map_eq_some_iff.1 hheaded.symm
      obtain rfl : p.name = s := Option.some.inj ((Change.augmented hrules).start_kept h hs)
      rw [hq]
      exact .renewed q
  | succ n => exact .kept _

end Revised

theorem Change.revised {g g' : Grammar α} (hc : Change g g') (h : WellFormed g)
    (hheaded : Headed g) (n : Nat) :
    Production.Revised g.productionsFor (g.production? n) (g'.production? n) := by
  cases hc with
  | unchanged | declared | first | follow => exact .kept _
  | added => exact revised_added ..
  | augmented hrules => exact revised_augmentedWith h hheaded hrules n
  | items =>
    rw [production?_buildItems]
    cases g.production? n with
    | none => exact .kept _
    | some p => exact .built p
  | lookaheads hitem =>
    rw [production?_editLookaheads hitem]
    cases g.production? n with
    | none => exact .kept _
    | some p =>
      rw [Option.map_some]
      split
      · exact .edited p ..
      · exact .kept _

/-! ### Runs -/

def ItemsWhole (g : Grammar α) : Prop := ∀ n, ∀ p ∈ g.production? n, p.Whole

theorem itemsWhole_performAll (names : List String) (calls : List (Call α)) :
    ItemsWhole ((ofTerminals names : Grammar α).performAll calls) := by
  have hbegin : ItemsWhole (ofTerminals names : Grammar α) := by
    intro n p hp
    cases n <;> contradiction
  have hrun := (wellFormed_ofTerminals names).performAll_induction
    (P := fun g : Grammar α => Headed g ∧ ItemsWhole g)
    (fun g g' h hc hg => ⟨hg.1.change hc, fun n => (hc.revised h hg.1 n).whole (hg.2 n)⟩)
    ⟨rfl, hbegin⟩ calls
  exact hrun.2

/-- Once there is a production under a number, there always is, and with all but its items the
same. -/
theorem WellFormed.production?_performAll {g : Grammar α} (h : WellFormed g) (hheaded : Headed g)
    (calls : List (Call α)) {n : Nat} {p : Production α} (hp : g.production? n = some p) :
    ∃ q, (g.performAll calls).production? n = some q ∧ q.bare = p.bare := by
  have hrun := h.performAll_induction
    (P := fun g : Grammar α => Headed g ∧ ∃ q, g.production? n = some q ∧ q.bare = p.bare)
    (fun g g' h hc hg => by
      obtain ⟨hheaded, q, hq, hbare⟩ := hg
      obtain ⟨q', hq', hbare'⟩ := (hc.revised h hheaded n).bare_eq hq
      exact ⟨hheaded.change hc, q', hq', hbare'.trans hbare⟩)
    ⟨hheaded, p, hp, rfl⟩ calls
  exact hrun.2

/-- An item finds the next, with the dot behind one symbol more, unless it is the last or its
production has no items. -/
theorem nextItem?_of_whole {g : Grammar α} {p : Production α} {h : Item} {i : Nat}
    (hp : g.production? p.number = some p) (hwhole : p.Whole) (hm : h.Marks p i)
    (hi : i ≤ p.symbols.length) :
    (∀ h', g.nextItem? h = some h' → h'.Marks p (i + 1) ∧ i + 1 ≤ p.symbols.length) ∧
      (p.items ≠ [] → g.nextItem? h = none → i = p.symbols.length) := by
  rw [nextItem?_eq hp hm hi]
  rcases hwhole with hnil | hchained
  · simp [hnil]
  · refine ⟨fun h' hh' => ⟨hchained.marks _ h' hh', hchained.le_of_getElem? hh'⟩, fun _ hnone => ?_⟩
    rw [List.getElem?_eq_none_iff, hchained.length] at hnone
    omega

/-- The production under a number is for good the one it was, but for its items. An item leads to
the one of the same production with the dot behind one symbol more, if the production has items by
then and the dot is not at the end. -/
theorem references_stable (names : List String) (calls later : List (Call α)) :
    let g := (ofTerminals names : Grammar α).performAll calls
    let g' := g.performAll later
    ∀ n p, g.production? n = some p → ∃ q, g'.production? n = some q ∧ q.bare = p.bare ∧
      q.distinctSymbols = p.distinctSymbols ∧
      ∀ h ∈ p.items, h.number = n ∧
        (∀ h', g'.nextItem? h = some h' → h'.number = h.number ∧ h'.name = h.name ∧
          h'.dotted.eraseIdx h'.index = h.dotted.eraseIdx h.index ∧ h'.index = h.index + 1) ∧
        (q.items ≠ [] → g'.nextItem? h = none → h.index = p.symbols.length) := by
  intro g g' n p hp
  have h : WellFormed g := wellFormed_performAll names calls
  have hheaded : Headed g := headed_performAll names calls
  have hrun : g' = (ofTerminals names).performAll (calls ++ later) := (performAll_append ..).symm
  have h' : WellFormed g' := h.performAll later
  have hheaded' : Headed g' := hrun ▸ headed_performAll names _
  have hwhole' : ItemsWhole g' := hrun ▸ itemsWhole_performAll names _
  obtain ⟨q, hq, hbare⟩ := h.production?_performAll hheaded later hp
  obtain ⟨hnumber, -, hsymbols⟩ := Production.eq_of_bare_eq hbare
  refine ⟨q, hq, hbare, congrArg OrderedSet.ofList hsymbols, fun x hx => ?_⟩
  -- the item marks a place in the production that was, and so in the one that is
  obtain ⟨i, hi, hm⟩ := (itemsWhole_performAll names calls n p hp).exists_marks hx
  have hm : x.Marks q i := hm.of_bare_eq hbare
  rw [← hsymbols] at hi
  have hqn : q.number = n := h'.number_of_production? hheaded' hq
  obtain ⟨hnext, hlast⟩ := nextItem?_of_whole (hqn ▸ hq) (hwhole' n q hq) hm hi
  refine ⟨hm.number.trans hqn, fun y hy => ?_, fun hitems hnone => ?_⟩
  · obtain ⟨hy, hlt⟩ := hnext y hy
    rw [hy.eraseIdx_dotted, hm.eraseIdx_dotted, hy.index_eq hlt, hm.index_eq hi]
    exact ⟨hy.number.trans hm.number.symm, hy.name.trans hm.name.symm, rfl, rfl⟩
  · rw [hm.index_eq hi, hlast hitems hnone, hsymbols]

/-- An item is held while production 0 is made anew and items are built again. -/
theorem references_stable_rebuilt :
    let calls : List (Call Unit) := [.addProduction "s" ["A", "s"] none none, .augment, .buildItems,
      .setLookaheads 1 1 4 ["A"]]
    let later : List (Call Unit) := [.addProduction "s" [] none none, .augment, .buildItems,
      .setLookaheads 1 2 5 ["$end"]]
    let g := (ofTerminals ["A"]).performAll calls
    let g' := g.performAll later
    let h : Item := ⟨1, "s", ["A"], ["s"], [1], ⟨[(4, ["A"])], List.nodup_singleton 4⟩⟩
    let p : Production Unit := ⟨1, "s", ["A", "s"], default, none,
      [⟨1, "s", [], ["A", "s"], [], ∅⟩, h, ⟨1, "s", ["A", "s"], [], [], ∅⟩]⟩
    g.production? 1 = some p ∧ h ∈ p.items ∧ ∃ q, g'.production? 1 = some q ∧ q.bare = p.bare ∧
      ∃ h', g'.nextItem? h = some h' ∧ h'.number = 1 ∧ h'.index = 2 := by
  intro calls later g g' h p
  have hp : g.production? 1 = some p := rfl
  have hmem : h ∈ p.items := List.mem_cons_of_mem _ List.mem_cons_self
  obtain ⟨q, hq, hbare, -, hitems⟩ := references_stable ["A"] calls later 1 p hp
  have hnext : g'.nextItem? h = some _ := rfl
  obtain ⟨hnumber, -, -, hindex⟩ := (hitems h hmem).2.1 _ hnext
  exact ⟨hp, hmem, q, hq, hbare, _, hnext, hnumber, hindex⟩

end Grammar

end FrontEnd
