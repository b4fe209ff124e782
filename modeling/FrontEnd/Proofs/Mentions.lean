import FrontEnd.Grammar.SymbolTable
import Mathlib.Data.Finset.Card

namespace FrontEnd.SymbolTable

theorem prefix_names_performAll (t : SymbolTable) (calls : List Call) :
    t.names <+: (t.performAll calls).names := by
  have hprefix := t.nameSet.prefix_insertAll (calls.map Call.symbol)
  rwa [← nameSet_performAll] at hprefix

theorem getElem?_names_add (t : SymbolTable) (s : String) :
    (t.add s).2.names[(t.add s).1]? = some s := by
  show (t.add s).2.names[t.names.idxOf s]? = some s
  rw [names_add]
  split
  · rename_i h
    exact List.getElem?_idxOf h
  · rename_i h
    rw [List.idxOf_eq_length h, List.getElem?_concat_length]

/-- What an addition answers is the only place of its symbol, then and after any more calls. -/
theorem getElem?_names_performAll_add (t : SymbolTable) (s : String) (later : List Call) (i : Nat) :
    ((t.add s).2.performAll later).names[i]? = some s ↔ i = (t.add s).1 := by
  obtain ⟨hlt, hs⟩ := List.getElem?_eq_some_iff.1 (getElem?_names_add t s)
  -- new names come at the end, so what stands at the place now stands there later
  have hprefix := prefix_names_performAll (t.add s).2 later
  have hplace : ((t.add s).2.performAll later).names[(t.add s).1]? = some s := by
    rw [List.prefix_iff_getElem?.1 hprefix _ hlt, hs]
  constructor
  · intro hi
    have hbound := hlt.trans_le hprefix.length_le
    exact ((List.getElem?_inj hbound (nodup_names _)).1 (hplace.trans hi.symm)).symm
  · rintro rfl
    exact hplace

/-- After any calls on a table that is made of a list, its names are the symbols that were
mentioned, in the order in which each first was. The uses of a symbol are the productions recorded
for it, and what an addition answers is the place of its symbol for good. -/
theorem mentions_exact (symbols : List String) (calls : List Call) :
    let t := (ofList symbols).performAll calls
    let mentioned := symbols ++ calls.map Call.symbol
    t.names = mentioned.eraseDups ∧
    (∀ x, t.uses? x =
      if x ∈ mentioned then some (calls.filterMap (Call.use? x)) else none) ∧
    (∀ s later i, ((t.add s).2.performAll later).names[i]? = some s ↔ i = (t.add s).1) ∧
    t.size = mentioned.toFinset.card := by
  intro t mentioned
  have hset : t.nameSet = OrderedSet.ofList mentioned := by
    rw [nameSet_performAll, nameSet_ofList, OrderedSet.ofList, OrderedSet.ofList,
      OrderedSet.insertAll_append]
  have hnames : t.names = mentioned.eraseDups :=
    (congrArg OrderedSet.toList hset).trans (OrderedSet.toList_ofList mentioned)
  have hmem (x : String) : x ∈ t.names ↔ x ∈ mentioned := by rw [hnames, List.mem_eraseDups]
  refine ⟨hnames, fun x => ?_, getElem?_names_performAll_add t, ?_⟩
  · rw [uses?_eq, usesOf_performAll, usesOf_ofList, List.nil_append]
    exact if_congr (hmem x) rfl rfl
  · have hfinset : t.names.toFinset = mentioned.toFinset := by
      ext x
      rw [List.mem_toFinset, List.mem_toFinset, hmem]
    rw [size_eq_length_names, ← hfinset, List.toFinset_card_of_nodup t.nodup_names]

/-- A symbol that comes again keeps its place and its uses, whichever call mentions it. -/
example :
    let t := (ofList ["b", "a", "b"]).performAll [.record "c" 3, .add "a", .record "a" 1, .add "c",
      .record "c" 3]
    t.names = ["b", "a", "c"] ∧ t.uses? "b" = some [] ∧ t.uses? "c" = some [3, 3] ∧
      t.uses? "d" = none ∧ (t.add "a").1 = 1 := by
  decide

end FrontEnd.SymbolTable
