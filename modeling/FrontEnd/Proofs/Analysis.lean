import FrontEnd.Proofs.Follow

namespace FrontEnd.Grammar

variable {α : Type}

theorem isEmpty_firstSets {g : Grammar α} (h : WellFormed g) : g.firstSets.1.isEmpty = false := by
  have hend : endMark ∈ g.firstSets.1.keys :=
    (firstStage_firstSets h).bounded.keys ▸ mem_keys_initialFirst.2 (.inr rfl)
  rw [OrderedMap.isEmpty, List.isEmpty_eq_false_iff]
  exact List.ne_nil_of_mem (List.mem_map.1 hend).choose_spec.1

/-- After the FIRST sets have been stored, the start symbol can be set, and then the FOLLOW sets can
be stored. -/
theorem perform_follow_of_first {g : Grammar α} (h : WellFormed g) {s : String}
    (hs : (g.rules.map Production.name).head? = some s) :
    ∃ a : Grammar α, Same g a ∧ a.first = g.firstSets.1 ∧
      (g.perform .storeFirst).grammar.perform .augment = ⟨.ok .done, [.startSet s], a⟩ ∧
      a.perform .storeFollow =
        ⟨.ok .done, [.followSettled (a.followSets s).2], a.withFollow s⟩ := by
  cases hrules : g.rules with
  | nil => simp [hrules] at hs
  | cons p rest =>
    obtain rfl : p.name = s := by simpa [hrules] using hs
    have hwf : WellFormed g.withFirst := h.of_same (same_withFirst g) h.started
    have hrules' : g.withFirst.rules = p :: rest := hrules
    refine ⟨g.withFirst.augmentedWith p, ?_, rfl, perform_augment hrules',
      perform_storeFollow rfl (isEmpty_firstSets h)⟩
    exact (same_withFirst g).trans
      (same_augmentedWith hwf (hrules' ▸ List.mem_cons_self))

theorem definitionOrder_eq {g : Grammar α} (h : WellFormed g) :
    g.definitionOrder = g.nonterminals.names.flatMap fun n =>
      (g.rules.map fun p => (p.name, p.symbols)).filter (·.1 = n) := by
  unfold definitionOrder
  congr 1
  funext n
  rw [h.indexed n, List.filterMap_map, List.filter_map, ← List.filterMap_eq_map]
  apply List.filterMap_congr
  -- what is listed for a name is found under its number, and has that name
  intro p hp
  obtain ⟨hp, hname⟩ := List.mem_filter.1 hp
  rw [Function.comp_apply, h.production?_number hp, Function.comp_apply, Option.map_some,
    of_decide_eq_true hname]

section Same

variable {g g' : Grammar α} (hs : Same g g')

include hs

theorem Same.initialFirst : g'.initialFirst = g.initialFirst := by
  rw [Grammar.initialFirst, Grammar.initialFirst, hs.terminals, hs.nonterminals]

theorem Same.passLimit (m : SymbolSets) : g'.passLimit m = g.passLimit m := by
  rw [Grammar.passLimit, Grammar.passLimit, SymbolTable.size_eq_length_names,
    SymbolTable.size_eq_length_names, hs.terminals]

theorem Same.firstSets (h : WellFormed g) (h' : WellFormed g') : g'.firstSets = g.firstSets := by
  have horder : g'.definitionOrder = g.definitionOrder := by
    rw [definitionOrder_eq h', definitionOrder_eq h, hs.nonterminals, hs.map_rules _ fun _ => rfl]
  have hpass : g'.firstPass = g.firstPass := by
    funext m
    rw [Grammar.firstPass, Grammar.firstPass, horder]
  rw [Grammar.firstSets, Grammar.firstSets, hs.initialFirst, hs.passLimit, hpass]

theorem Same.followSets (hfirst : g'.first = g.first) (start : String) :
    g'.followSets start = g.followSets start := by
  have hinitial : g'.initialFollow start = g.initialFollow start := by
    rw [Grammar.initialFollow, Grammar.initialFollow, hs.nonterminals]
  rw [Grammar.followSets, Grammar.followSets, hinitial, hs.passLimit, hs.followPass hfirst]

end Same

end FrontEnd.Grammar
