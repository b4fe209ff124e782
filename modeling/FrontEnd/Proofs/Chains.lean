import FrontEnd.Proofs.Numbering

namespace FrontEnd

/-! ### Dots -/

section Dots

variable {α : Type}

/-- The item is a production with the dot behind `i` of its symbols. -/
structure Item.Marks (h : Item) (p : Production α) (i : Nat) : Prop where
  number : h.number = p.number
  name : h.name = p.name
  before : h.before = p.symbols.take i
  after : h.after = p.symbols.drop i

/-- There is one item for each place of the dot, in the order of the places. -/
structure Production.Chained (p : Production α) : Prop where
  length : p.items.length = p.symbols.length + 1
  marks : ∀ i, ∀ h : Item, p.items[i]? = some h → h.Marks p i

namespace Item.Marks

variable {h h' : Item} {p : Production α} {i : Nat} (hm : h.Marks p i)

include hm

theorem dotted_eq : h.dotted = p.symbols.take i ++ Grammar.dotMark :: p.symbols.drop i := by
  rw [dotted, hm.before, hm.after]

theorem length_dotted : h.dotted.length = p.symbols.length + 1 := by
  rw [hm.dotted_eq, List.length_append, List.length_cons, ← Nat.add_assoc, ← List.length_append,
    List.take_append_drop]

theorem index_eq (hi : i ≤ p.symbols.length) : h.index = i := by
  rw [index, hm.before, List.length_take, Nat.min_eq_left hi]

theorem eraseIdx_dotted : h.dotted.eraseIdx h.index = p.symbols := by
  rw [dotted, index, List.eraseIdx_append_of_length_le (Nat.le_refl _), Nat.sub_self,
    List.eraseIdx_cons_zero, hm.before, hm.after, List.take_append_drop]

theorem previous?_eq (hi : i ≤ p.symbols.length) :
    h.previous? = if i = 0 then none else p.symbols[i - 1]? := by
  rw [previous?, hm.before, List.getLast?_take]
  split
  · rfl
  · rename_i hne
    have hlt : i - 1 < p.symbols.length := by omega
    rw [List.getElem?_eq_getElem hlt, Option.some_or]

theorem next?_eq : h.next? = p.symbols[i]? := by
  rw [next?, hm.after, List.head?_drop]

theorem exchange (hm' : h'.Marks p (i + 1)) {x : String} (hx : h.next? = some x) :
    h'.dotted = (h.dotted.set h.index x).set (h.index + 1) Grammar.dotMark := by
  rw [hm.next?_eq] at hx
  obtain ⟨hi, hget⟩ := List.getElem?_eq_some_iff.1 hx
  have hbefore : h'.before = h.before ++ [x] := by
    rw [hm'.before, hm.before, List.take_add_one, hx, Option.toList_some]
  have hafter : h.after = x :: h'.after := by
    rw [hm'.after, hm.after, List.drop_eq_getElem_cons hi, hget]
  rw [dotted, dotted, index, hbefore, hafter]
  simp

end Item.Marks

theorem Production.getElem?_items_withItems {p : Production α} {definitions : String → List Nat}
    {i : Nat} {h : Item} : (p.withItems definitions).items[i]? = some h ↔
      i ≤ p.symbols.length ∧ p.itemAt definitions i = h := by
  rw [withItems, List.getElem?_map, Option.map_eq_some_iff]
  constructor
  · rintro ⟨j, hj, rfl⟩
    obtain ⟨hlt, rfl⟩ := List.getElem?_eq_some_iff.1 hj
    rw [List.getElem_range]
    rw [List.length_range] at hlt
    exact ⟨Nat.le_of_lt_succ hlt, rfl⟩
  · rintro ⟨hi, rfl⟩
    exact ⟨i, List.getElem?_range (Nat.lt_succ_of_le hi), rfl⟩

theorem Production.chained_withItems (p : Production α) (definitions : String → List Nat) :
    (p.withItems definitions).Chained := by
  refine ⟨by simp [withItems], fun i h hh => ?_⟩
  obtain ⟨-, rfl⟩ := getElem?_items_withItems.1 hh
  exact ⟨rfl, rfl, rfl, rfl⟩

theorem Production.Chained.le_of_getElem? {p : Production α} (hp : p.Chained) {i : Nat} {h : Item}
    (hh : p.items[i]? = some h) : i ≤ p.symbols.length := by
  have hlt := (List.getElem?_eq_some_iff.1 hh).1
  rw [hp.length] at hlt
  exact Nat.le_of_lt_succ hlt

end Dots

namespace Grammar

variable {α : Type}

/-! ### From item to item -/

/-- In a list in which each item leads to the next, going on from one lists it and all behind it. -/
theorem itemsFrom_eq {g : Grammar α} {items : List Item}
    (hnext : ∀ i h, items[i]? = some h → g.nextItem? h = items[i + 1]?) (limit i : Nat) :
    g.itemsFrom limit items[i]? = (items.drop i).take limit := by
  induction limit generalizing i with
  | zero => cases items[i]? <;> rfl
  | succ limit ih =>
    cases hi : items[i]? with
    | none =>
      rw [List.drop_eq_nil_of_le (List.getElem?_eq_none_iff.1 hi)]
      rfl
    | some h =>
      rw [itemsFrom, hnext i h hi, ih]
      obtain ⟨hlt, rfl⟩ := List.getElem?_eq_some_iff.1 hi
      rw [List.drop_eq_getElem_cons hlt, List.take_succ_cons]

section Next

variable {g : Grammar α} {p : Production α} (hp : g.production? p.number = some p)

include hp

theorem nextItem?_eq {h : Item} {i : Nat} (hm : h.Marks p i) (hi : i ≤ p.symbols.length) :
    g.nextItem? h = p.items[i + 1]? := by
  rw [nextItem?, item?, hm.number, hm.index_eq hi, hp, Option.bind_some]

variable (hchained : p.Chained)

include hchained

theorem nextItem?_of_chained {h : Item} {i : Nat} (hh : p.items[i]? = some h) :
    g.nextItem? h = p.items[i + 1]? :=
  nextItem?_eq hp (hchained.marks i h hh) (hchained.le_of_getElem? hh)

theorem itemsFrom_head? (more : Nat) :
    g.itemsFrom (p.symbols.length + 1 + more) p.items.head? = p.items := by
  have hwalk := itemsFrom_eq (fun _ _ => nextItem?_of_chained hp hchained)
    (p.symbols.length + 1 + more) 0
  have hle : p.items.length ≤ p.symbols.length + 1 + more := by
    rw [hchained.length]
    omega
  rwa [← List.head?_eq_getElem?, List.drop_zero, List.take_of_length_le hle] at hwalk

end Next

/-! ### Items that are built -/

theorem production?_buildItems (g : Grammar α) (n : Nat) :
    g.buildItems.production? n = (g.production? n).map (·.withItems g.productionsFor) := by
  cases n with
  | zero => rfl
  | succ n => exact List.getElem?_map

section Expansions

variable {g : Grammar α} (h : WellFormed g)

include h

theorem WellFormed.productionsFor_eq_nil_iff {x : String} :
    g.productionsFor x = [] ↔ ∀ q ∈ g.rules, q.name ≠ x := by
  rw [h.indexed x, List.map_eq_nil_iff, List.filter_eq_nil_iff]
  simp

theorem WellFormed.productionsFor_of_isTerminal {x : String} (hx : g.isTerminal x = true) :
    g.productionsFor x = [] := by
  rw [h.productionsFor_eq_nil_iff]
  rintro q hq rfl
  rw [h.isTerminal_eq_false (h.defined q hq)] at hx
  contradiction

theorem WellFormed.number_of_production? (hheaded : Headed g) {n : Nat} {p : Production α}
    (hp : g.production? n = some p) : p.number = n := by
  cases n with
  | zero => exact hheaded.number_eq hp
  | succ n => exact (h.number_eq hp).2

/-- Production 0 mentions the start symbol, and the others what was in sight when they came. -/
theorem WellFormed.knows (hheaded : Headed g) {n : Nat} {p : Production α}
    (hp : g.production? n = some p) {x : String} (hx : x ∈ p.symbols) : g.Knows x := by
  cases n with
  | zero =>
    obtain ⟨s, hs, hsymbols⟩ := hheaded.exists_symbols hp
    rw [hsymbols, List.mem_singleton] at hx
    exact .inr (hx ▸ h.isNonterminal_start hs)
  | succ n => exact h.known p (h.number_eq hp).1 x hx

variable {symbol : Option String}

theorem WellFormed.mem_expansions {n : Nat} :
    n ∈ (symbol.map g.productionsFor).getD [] ↔
      0 < n ∧ ∃ q, g.production? n = some q ∧ symbol = some q.name := by
  cases symbol with
  | none => simp
  | some x =>
    rw [Option.map_some, Option.getD_some, h.mem_productionsFor]
    simp only [Option.some.injEq, eq_comm]

theorem WellFormed.pairwise_expansions :
    ((symbol.map g.productionsFor).getD []).Pairwise (· < ·) := by
  cases symbol with
  | none => exact .nil
  | some x => exact h.pairwise_productionsFor x

theorem WellFormed.expansions_eq_nil_iff (hknown : ∀ x, symbol = some x → g.Knows x) :
    (symbol.map g.productionsFor).getD [] = [] ↔ symbol = none ∨ ∃ x, symbol = some x ∧
      (g.isTerminal x = true ∨ g.isNonterminal x = true ∧ ∀ q ∈ g.rules, q.name ≠ x) := by
  cases symbol with
  | none => simp
  | some x =>
    rw [Option.map_some, Option.getD_some]
    constructor
    · intro hnil
      refine .inr ⟨x, rfl, (hknown x rfl).imp_right fun hx => ⟨hx, ?_⟩⟩
      exact h.productionsFor_eq_nil_iff.1 hnil
    · rintro (hnone | ⟨_, ⟨⟩, hterm | ⟨-, hundefined⟩⟩)
      · contradiction
      · exact h.productionsFor_of_isTerminal hterm
      · exact h.productionsFor_eq_nil_iff.2 hundefined

end Expansions

structure ItemSound (g : Grammar α) (p : Production α) (i : Nat) (h : Item) : Prop where
  number : h.number = p.number
  name : h.name = p.name
  index : h.index = i
  dotted : h.dotted = p.symbols.take i ++ dotMark :: p.symbols.drop i
  length : h.dotted.length = p.symbols.length + 1
  erased : h.dotted.eraseIdx i = p.symbols
  previous : h.previous? = if i = 0 then none else p.symbols[i - 1]?
  next : h.next? = p.symbols[i]?
  /-- The productions that are listed are those of the symbol behind the dot, 0 apart. -/
  expansions : ∀ n, n ∈ h.expansions ↔
    0 < n ∧ ∃ q, g.production? n = some q ∧ p.symbols[i]? = some q.name
  ascending : h.expansions.Pairwise (· < ·)
  expansions_nil : h.expansions = [] ↔ i = p.symbols.length ∨ ∃ x, p.symbols[i]? = some x ∧
    (g.isTerminal x = true ∨ g.isNonterminal x = true ∧ ∀ q ∈ g.rules, q.name ≠ x)
  lookaheads : h.lookaheads = ∅

theorem itemSound_itemAt {g : Grammar α} (h : WellFormed g) (hheaded : Headed g) {n : Nat}
    {p : Production α} (hp : g.production? n = some p) {i : Nat} (hi : i ≤ p.symbols.length) :
    ItemSound g p i (p.itemAt g.productionsFor i) := by
  have hm : (p.itemAt g.productionsFor i).Marks p i := ⟨rfl, rfl, rfl, rfl⟩
  have hindex := hm.index_eq hi
  have hend : p.symbols[i]? = none ↔ i = p.symbols.length := by
    rw [List.getElem?_eq_none_iff]
    omega
  have hknown : ∀ x, p.symbols[i]? = some x → g.Knows x := fun x hx =>
    h.knows hheaded hp (List.mem_of_getElem? hx)
  refine ⟨hm.number, hm.name, hindex, hm.dotted_eq, hm.length_dotted, ?_, hm.previous?_eq hi,
    hm.next?_eq, fun n => h.mem_expansions, h.pairwise_expansions, ?_, rfl⟩
  · rw [← hm.eraseIdx_dotted, hindex]
  · rw [← hend]
    exact h.expansions_eq_nil_iff hknown

/-- Right after items are built, each production, 0 included, has as many as there are places for a
dot, all that they say is true, and going on from the first lists them and ends. -/
theorem chains_exact (names : List String) (calls : List (Call α)) :
    let g := (ofTerminals names : Grammar α).performAll (calls ++ [.buildItems])
    ∀ n p, g.production? n = some p →
      p.items.length = p.symbols.length + 1 ∧
      (∀ more, g.itemsFrom (p.symbols.length + 1 + more) p.items.head? = p.items) ∧
      ∀ i ≤ p.symbols.length, ∃ h, p.items[i]? = some h ∧ ItemSound g p i h ∧
        g.nextItem? h = p.items[i + 1]? ∧
        ∀ x h', h.next? = some x → p.items[i + 1]? = some h' →
          h'.dotted = (h.dotted.set i x).set (i + 1) dotMark := by
  intro g n p hp
  have h : WellFormed g := wellFormed_performAll names _
  have hheaded : Headed g := headed_performAll names _
  have hbuilt : g = ((ofTerminals names : Grammar α).performAll calls).buildItems :=
    performAll_append ..
  obtain ⟨q, rfl⟩ : ∃ q : Production α, q.withItems g.productionsFor = p := by
    rw [hbuilt, production?_buildItems] at hp
    obtain ⟨q, -, hq⟩ := Option.map_eq_some_iff.1 hp
    exact ⟨q, hbuilt ▸ hq⟩
  have hchained := q.chained_withItems g.productionsFor
  have hnumber := h.number_of_production? hheaded hp
  refine ⟨hchained.length, itemsFrom_head? (hnumber ▸ hp) hchained, fun i hi => ?_⟩
  have hitem : (q.withItems g.productionsFor).items[i]? = some (q.itemAt g.productionsFor i) :=
    Production.getElem?_items_withItems.2 ⟨hi, rfl⟩
  have hm := hchained.marks i _ hitem
  refine ⟨_, hitem, itemSound_itemAt h hheaded hp hi,
    nextItem?_of_chained (hnumber ▸ hp) hchained hitem, fun x h' hx hh' => ?_⟩
  rw [hm.exchange (hchained.marks (i + 1) h' hh') hx, hm.index_eq hi]

/-- Here the mark itself is a terminal, and lookaheads have been written before. -/
theorem chains_exact_dots :
    let calls : List (Call Unit) := [.addProduction "s" [dotMark, "s"] none none,
      .addProduction "s" [] none none, .augment, .buildItems, .setLookaheads 1 1 7 [dotMark]]
    let g := (ofTerminals [dotMark]).performAll (calls ++ [.buildItems])
    ∃ p, g.production? 1 = some p ∧ (∀ more, g.itemsFrom (3 + more) p.items.head? = p.items) ∧
      ∃ h, p.items[1]? = some h ∧ ItemSound g p 1 h ∧ h.dotted = [".", ".", "s"] := by
  intro calls g
  have hp : g.production? 1 = some _ := rfl
  obtain ⟨-, hwalk, hitems⟩ := chains_exact [dotMark] calls 1 _ hp
  obtain ⟨h, hh, hsound, -⟩ := hitems 1 (by decide)
  exact ⟨_, hp, hwalk, h, hh, hsound, hsound.dotted⟩

end Grammar
end FrontEnd
