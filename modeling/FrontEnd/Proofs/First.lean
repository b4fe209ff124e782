import FrontEnd.Proofs.Derivation
import FrontEnd.Proofs.Layers

namespace FrontEnd.Grammar

variable {α : Type}

/-! ### Sequences -/

section Sequence

variable {first : SymbolSets} {x y : String} {u v : List String}

/-- What is read onto a set is added to it in the order that it has by itself. -/
theorem firstOnto_eq (acc : OrderedSet String) (u : List String) :
    firstOnto first acc u = acc.insertAll (firstOfSequence first u).toList := by
  induction u generalizing acc with
  | nil => rfl
  | cons y u ih =>
    rw [firstOfSequence, firstOnto, firstOnto]
    split
    · rw [ih, ih, OrderedSet.insertAll_insertAll, OrderedSet.insertAll_insertAll]
      rfl
    · rw [OrderedSet.insertAll_insertAll]
      rfl

theorem mem_firstOnto {acc : OrderedSet String} :
    x ∈ firstOnto first acc u ↔ x ∈ acc ∨ x ∈ firstOfSequence first u := by
  rw [firstOnto_eq, OrderedSet.mem_insertAll, OrderedSet.mem_toList]

theorem mem_firstOfSequence_nil : x ∈ firstOfSequence first [] ↔ x = emptyMark := by
  simp [firstOfSequence, firstOnto]

theorem mem_firstOfSequence_cons :
    x ∈ firstOfSequence first (y :: u) ↔
      x ∈ first.members y ∧ x ≠ emptyMark ∨
        emptyMark ∈ first.members y ∧ x ∈ firstOfSequence first u := by
  rw [firstOfSequence, firstOnto]
  split
  · rename_i h
    simp [mem_firstOnto, h]
  · rename_i h
    simp [h]

theorem mem_firstOfSequence_singleton :
    x ∈ firstOfSequence first [y] ↔ x ∈ first.members y := by
  rw [mem_firstOfSequence_cons, mem_firstOfSequence_nil]
  by_cases hx : x = emptyMark <;> simp [hx]

theorem mem_firstOfSequence_append :
    x ∈ firstOfSequence first (u ++ v) ↔
      x ∈ firstOfSequence first u ∧ x ≠ emptyMark ∨
        emptyMark ∈ firstOfSequence first u ∧ x ∈ firstOfSequence first v := by
  induction u with
  | nil => simp [mem_firstOfSequence_nil]
  | cons y u ih =>
    rw [List.cons_append, mem_firstOfSequence_cons, ih, mem_firstOfSequence_cons,
      mem_firstOfSequence_cons]
    tauto

theorem mem_of_mem_firstOfSequence (h : x ∈ firstOfSequence first u) :
    x = emptyMark ∨ ∃ y ∈ u, x ∈ first.members y := by
  induction u with
  | nil => exact .inl (mem_firstOfSequence_nil.1 h)
  | cons y u ih =>
    rcases mem_firstOfSequence_cons.1 h with ⟨hy, -⟩ | ⟨-, hu⟩
    · exact .inr ⟨y, List.mem_cons_self, hy⟩
    · exact (ih hu).imp_right fun ⟨z, hz, hx⟩ => ⟨z, List.mem_cons_of_mem y hz, hx⟩

/-- Which symbols have `x` and which the mark in their sets decides whether a sequence has `x`. -/
theorem mem_firstOfSequence_of_within {first' : SymbolSets}
    (hmark : SymbolSets.Within emptyMark first first') (hx : SymbolSets.Within x first first')
    (h : x ∈ firstOfSequence first u) : x ∈ firstOfSequence first' u := by
  induction u with
  | nil => exact h
  | cons y u ih =>
    rcases mem_firstOfSequence_cons.1 h with ⟨hy, hne⟩ | ⟨he, hu⟩
    · exact mem_firstOfSequence_cons.2 (.inl ⟨hx y hy, hne⟩)
    · exact mem_firstOfSequence_cons.2 (.inr ⟨hmark y he, ih hu⟩)

/-- A part of a sequence may be replaced by one with more members. -/
theorem firstOfSequence_subset (before after : List String)
    (h : ∀ x ∈ firstOfSequence first u, x ∈ firstOfSequence first v)
    (hx : x ∈ firstOfSequence first (before ++ u ++ after)) :
    x ∈ firstOfSequence first (before ++ v ++ after) := by
  simp only [mem_firstOfSequence_append] at hx ⊢
  have hmark := h emptyMark
  have hmem := h x
  tauto

end Sequence

/-! ### The sets to begin with -/

theorem lookup_map_pair {β : Type} (f : String → β) (names : List String) (k : String) :
    (names.map fun n => (n, f n)).lookup k = if k ∈ names then some (f k) else none := by
  split
  · rename_i hk
    exact List.lookup_graph f hk
  · rename_i hk
    rw [List.lookup_eq_none_iff]
    intro e he
    obtain ⟨n, hn, rfl⟩ := List.mem_map.1 he
    exact bne_iff_ne.2 fun h => hk (h ▸ hn)

/-- A nonterminal may be called like the end mark, which then has no set of its own. -/
theorem members_initialFirst (g : Grammar α) (k : String) :
    g.initialFirst.members k =
      if g.isNonterminal k then ∅
      else if g.isTerminal k ∨ k = endMark then .singleton k else ∅ := by
  rw [SymbolSets.members, initialFirst, OrderedMap.get?_ofList, List.reverse_append,
    List.reverse_cons, List.append_assoc, List.singleton_append, List.lookup_append,
    ← List.map_reverse, ← List.map_reverse, lookup_map_pair, List.lookup_cons, lookup_map_pair]
  simp only [List.mem_reverse, isNonterminal_iff, isTerminal_iff]
  by_cases hn : k ∈ g.nonterminals.names
  · simp [hn]
  · by_cases he : k = endMark
    · subst he
      simp [hn]
    · by_cases ht : k ∈ g.terminals.names
      · simp [hn, he, ht, beq_false_of_ne he]
      · simp [hn, he, ht, beq_false_of_ne he]

theorem mem_keys_initialFirst {g : Grammar α} {k : String} :
    k ∈ g.initialFirst.keys ↔ g.Knows k ∨ k = endMark := by
  rw [initialFirst, OrderedMap.mem_keys_ofList, Knows, isTerminal_iff, isNonterminal_iff]
  simp
  tauto

def alphabet (g : Grammar α) : List String := g.terminals.names ++ [endMark, emptyMark]

theorem mem_alphabet {g : Grammar α} {x : String} :
    x ∈ g.alphabet ↔ g.isTerminal x = true ∨ x = endMark ∨ x = emptyMark := by
  simp [alphabet, isTerminal_iff]

theorem over_initialFirst (g : Grammar α) :
    SymbolSets.Over g.initialFirst.keys g.alphabet g.initialFirst := by
  refine ⟨rfl, fun k x hx => ?_⟩
  rw [members_initialFirst] at hx
  rw [mem_alphabet]
  split at hx
  · exact absurd hx (OrderedSet.not_mem_empty x)
  · split at hx
    · rename_i h
      obtain rfl := OrderedSet.mem_singleton.1 hx
      exact h.imp_right .inl
    · exact absurd hx (OrderedSet.not_mem_empty x)

/-! ### Passes -/

def firstStep (m : SymbolSets) (e : String × List String) : SymbolSets :=
  m.extend e.1 (firstOfSequence m e.2).toList

theorem mem_definitionOrder {g : Grammar α} (h : WellFormed g) {e : String × List String} :
    e ∈ g.definitionOrder ↔ ∃ p ∈ g.rules, e = (p.name, p.symbols) := by
  simp only [definitionOrder, List.mem_flatMap, List.mem_filterMap, Option.map_eq_some_iff,
    h.indexed, List.mem_map, List.mem_filter, decide_eq_true_eq]
  constructor
  · rintro ⟨n, -, k, ⟨p, ⟨hp, rfl⟩, rfl⟩, q, hq, rfl⟩
    rw [h.production?_number hp, Option.some.injEq] at hq
    exact ⟨p, hp, hq ▸ rfl⟩
  · rintro ⟨p, hp, rfl⟩
    exact ⟨p.name, isNonterminal_iff.1 (h.defined p hp), p.number, ⟨p, ⟨hp, rfl⟩, rfl⟩, p,
      h.production?_number hp, rfl⟩

def definedNames (g : Grammar α) : List String :=
  g.nonterminals.names.filter fun n => g.rules.any (·.name = n)

theorem mem_definedNames {g : Grammar α} {n : String} :
    n ∈ g.definedNames ↔ n ∈ g.nonterminals.names ∧ ∃ p ∈ g.rules, p.name = n := by
  simp [definedNames]

/-- Nothing is missing: the set of a left-hand side has what its right-hand side has. -/
def FirstClosed (g : Grammar α) (first : SymbolSets) : Prop :=
  ∀ p ∈ g.rules, ∀ x ∈ firstOfSequence first p.symbols, x ∈ first.members p.name

/-- Sets that the passes can have built from the ones to begin with. -/
structure FirstStage (g : Grammar α) (m : SymbolSets) : Prop where
  bounded : m.Over g.initialFirst.keys g.alphabet
  /-- Only the sets of nonterminals change. -/
  fixed : ∀ k, g.isNonterminal k = false → m.members k = g.initialFirst.members k

section Pass

variable {g : Grammar α} (h : WellFormed g) {m : SymbolSets}

include h

theorem FirstStage.step (hm : FirstStage g m) {e : String × List String}
    (he : e ∈ g.definitionOrder) : FirstStage g (firstStep m e) := by
  obtain ⟨p, hp, rfl⟩ := (mem_definitionOrder h).1 he
  have hname := h.defined p hp
  constructor
  · apply hm.bounded.extend (mem_keys_initialFirst.2 (.inl (.inr hname)))
    intro x hx
    rcases mem_of_mem_firstOfSequence hx with rfl | ⟨y, -, hy⟩
    · exact mem_alphabet.2 (.inr (.inr rfl))
    · exact hm.bounded.members y x hy
  · intro k hk
    -- only the set of the left-hand side is extended, and `k` is no left-hand side
    have hne : k ≠ p.name := by
      rintro rfl
      exact Bool.false_ne_true (hk.symm.trans hname)
    rw [firstStep, SymbolSets.members_extend, if_neg hne, hm.fixed k hk]

theorem FirstStage.grows_step (hm : FirstStage g m) {e : String × List String}
    (he : e ∈ g.definitionOrder) : SymbolSets.Grows m (firstStep m e) := by
  obtain ⟨p, hp, rfl⟩ := (mem_definitionOrder h).1 he
  apply SymbolSets.grows_extend
  rw [hm.bounded.keys]
  exact mem_keys_initialFirst.2 (.inl (.inr (h.defined p hp)))

omit h in
theorem firstStage_initialFirst (g : Grammar α) : FirstStage g g.initialFirst :=
  ⟨over_initialFirst g, fun _ _ => rfl⟩

omit h in
/-- A step carries over what two families have in common in a layer and in that of the mark. -/
theorem within_firstStep {m' : SymbolSets} {x : String}
    (hm : SymbolSets.Within emptyMark m m' ∧ SymbolSets.Within x m m') (e : String × List String) :
    SymbolSets.Within emptyMark (firstStep m e) (firstStep m' e) ∧
      SymbolSets.Within x (firstStep m e) (firstStep m' e) := by
  have hstep {y : String} (hy : SymbolSets.Within y m m') :
      SymbolSets.Within y (firstStep m e) (firstStep m' e) := by
    intro k hk
    rcases SymbolSets.mem_members_extend.1 hk with hold | ⟨rfl, hnew⟩
    · exact SymbolSets.mem_members_extend.2 (.inl (hy k hold))
    · exact SymbolSets.mem_members_extend.2
        (.inr ⟨rfl, mem_firstOfSequence_of_within hm.1 hy hnew⟩)
  exact ⟨hstep hm.1, hstep hm.2⟩

omit h in
theorem within_firstPass (g : Grammar α) {m' : SymbolSets} {x : String}
    (hmark : SymbolSets.Within emptyMark m m') (hx : SymbolSets.Within x m m') :
    SymbolSets.Within x (g.firstPass m) (g.firstPass m') := by
  have hpass := List.foldl_rel (l := g.definitionOrder) (f := firstStep) (g := firstStep)
    (r := fun m m' => SymbolSets.Within emptyMark m m' ∧ SymbolSets.Within x m m')
    ⟨hmark, hx⟩ fun e _ _ _ hm => within_firstStep hm e
  exact hpass.2

theorem FirstStage.pass (hm : FirstStage g m) : FirstStage g (g.firstPass m) :=
  SymbolSets.keep_foldl (fun _ hm _ he => hm.step h he) hm

theorem FirstStage.grows_pass (hm : FirstStage g m) : SymbolSets.Grows m (g.firstPass m) :=
  SymbolSets.grows_foldl (fun _ hm _ he => hm.step h he) (fun _ hm _ he => hm.grows_step h he) hm

theorem members_firstPass (m : SymbolSets) {k : String} (hk : k ∉ g.definedNames) :
    (g.firstPass m).members k = m.members k := by
  apply SymbolSets.keep_foldl (P := fun m' => m'.members k = m.members k) _ rfl
  intro m' hm' e he
  obtain ⟨p, hp, rfl⟩ := (mem_definitionOrder h).1 he
  have hne : k ≠ p.name := by
    rintro rfl
    exact hk (mem_definedNames.2 ⟨isNonterminal_iff.1 (h.defined p hp), p, hp, rfl⟩)
  exact (SymbolSets.members_extend ..).trans ((if_neg hne).trans hm')

/-- Passes find out what can be empty without regard to other members, so they have done so
after as many passes as there are sets that grow. From then on each layer grows by itself. -/
theorem iterate_firstPass :
    g.firstPass (g.firstPass^[2 * g.definedNames.length] g.initialFirst) =
      g.firstPass^[2 * g.definedNames.length] g.initialFirst := by
  have hkeep : ∀ m, FirstStage g m → FirstStage g (g.firstPass m) := fun _ hm => hm.pass h
  have hgrow : ∀ m, FirstStage g m → SymbolSets.Grows m (g.firstPass m) :=
    fun _ hm => hm.grows_pass h
  have hstart := firstStage_initialFirst g
  let half := g.firstPass^[g.definedNames.length] g.initialFirst
  have hhalf : FirstStage g half := SymbolSets.keep_iterate hkeep hstart _
  have hmark : SymbolSets.Within emptyMark (g.firstPass half) half :=
    SymbolSets.within_iterate hkeep hgrow (fun m _ _ hk => members_firstPass h m hk) hstart
      (fun _ _ hidle => within_firstPass g hidle hidle) le_rfl
  have hlast (x : String) :
      SymbolSets.Within x (g.firstPass (g.firstPass^[g.definedNames.length] half))
        (g.firstPass^[g.definedNames.length] half) :=
    SymbolSets.within_iterate
      (P := fun m => FirstStage g m ∧ SymbolSets.Within emptyMark (g.firstPass m) m)
      (fun _ hm => ⟨hm.1.pass h, within_firstPass g hm.2 hm.2⟩) (fun _ hm => hm.1.grows_pass h)
      (fun m _ _ hk => members_firstPass h m hk) ⟨hhalf, hmark⟩
      (fun _ hm hidle => within_firstPass g hm.2 hidle) le_rfl
  rw [Nat.two_mul, Function.iterate_add_apply]
  exact (SymbolSets.grows_iterate hkeep hgrow hhalf _).eq_of_within hlast

omit h in
theorem lt_passLimit (g : Grammar α) {n : ℕ} (hn : n ≤ m.keys.length) : 2 * n < g.passLimit m := by
  have hsize : m.keys.length = m.size := List.length_map ..
  rw [passLimit, ← hsize, Nat.mul_add, Nat.mul_comm 2]
  omega

/-- The limit of passes is never what ends them. -/
theorem stops_firstSets :
    SymbolSets.Stops g.firstPass g.initialFirst g.firstSets.1 g.firstSets.2 ∧
      g.firstSets.2 ≤ 2 * g.definedNames.length + 1 := by
  apply SymbolSets.stops_settle (iterate_firstPass h)
  apply lt_passLimit
  apply (g.nonterminals.entries.nodup.filter _).length_le_of_subset
  intro n hn
  exact mem_keys_initialFirst.2 (.inl (.inr (isNonterminal_iff.2 (mem_definedNames.1 hn).1)))

theorem settled_firstSets :
    SymbolSets.Settled firstStep g.definitionOrder (FirstStage g) g.initialFirst g.firstSets.1 :=
  SymbolSets.settled_of_fixed (fun _ hm _ he => hm.step h he) (fun _ hm _ he => hm.grows_step h he)
    (firstStage_initialFirst g) (stops_firstSets h).1.fixed

theorem firstStage_firstSets : FirstStage g g.firstSets.1 := (settled_firstSets h).keep

theorem firstClosed_firstSets : FirstClosed g g.firstSets.1 := by
  intro p hp x hx
  rw [← (settled_firstSets h).fixed _ ((mem_definitionOrder h).2 ⟨p, hp, rfl⟩)]
  exact SymbolSets.mem_members_extend.2 (.inr ⟨rfl, hx⟩)

end Pass

/-! ### Terminals -/

theorem FirstStage.members_of_terminal {g : Grammar α} (h : WellFormed g) {m : SymbolSets}
    (hm : FirstStage g m) {t : String} (ht : g.isTerminal t = true) :
    m.members t = .singleton t := by
  rw [hm.fixed t (h.disjoint t ht), members_initialFirst, h.disjoint t ht]
  simp [ht]

/-- The stored FIRST set of a terminal is the terminal alone. -/
def TerminalsFirst (g : Grammar α) : Prop :=
  ∀ t, g.isTerminal t = true → g.first.get? t = some (.singleton t)

/-- A terminal may be called like a mark, and may be given more than once: it is no nonterminal, so
none of the sets that are put in later is for it, and no pass adds to its set. -/
theorem terminalsFirst_withFirst {g : Grammar α} (h : WellFormed g) :
    TerminalsFirst g.withFirst := by
  intro t ht
  have hstage := firstStage_firstSets h
  have hmem : t ∈ g.firstSets.1.keys :=
    hstage.bounded.keys ▸ mem_keys_initialFirst.2 (.inl (.inl ht))
  show g.firstSets.1.get? t = _
  rw [SymbolSets.get?_eq_members hmem, hstage.members_of_terminal h ht]

theorem TerminalsFirst.change {g g' : Grammar α} (hg : TerminalsFirst g) (h : WellFormed g)
    (hc : Change g g') : TerminalsFirst g' := by
  rcases hc.first_eq_or_stored with hfirst | rfl
  · intro t ht
    rw [isTerminal_congr (hc.terminals h)] at ht
    rw [hfirst]
    exact hg t ht
  · exact terminalsFirst_withFirst h

theorem terminalsFirst_performAll (names : List String) (before after : List (Call α)) :
    TerminalsFirst ((ofTerminals names).performAll (before ++ .storeFirst :: after)) := by
  have h : WellFormed ((ofTerminals names).performAll before) := wellFormed_performAll names before
  rw [performAll_append, performAll_cons]
  exact (h.change .first).performAll_induction (fun _ _ h hc hg => hg.change h hc)
    (terminalsFirst_withFirst h) after

/-! ### Soundness -/

structure FirstSound (g : Grammar α) (m : SymbolSets) : Prop extends FirstStage g m where
  begins : ∀ n, g.isNonterminal n = true → ∀ x ∈ m.members n, g.Begins [n] x

section Sound

variable {g : Grammar α} (h : WellFormed g) (hmark : g.isTerminal emptyMark = false)
  {m : SymbolSets}

include h

theorem FirstSound.begins_symbol (hm : FirstSound g m) {x y : String} (hy : g.Knows y)
    (hx : x ∈ m.members y) : g.Begins [y] x := by
  rcases hy with hy | hy
  · rw [hm.members_of_terminal h hy] at hx
    obtain rfl := OrderedSet.mem_singleton.1 hx
    exact .inr ⟨hy, [], .refl⟩
  · exact hm.begins y hy x hx

include hmark

theorem FirstSound.begins_sequence (hm : FirstSound g m) {symbols : List String}
    (hk : ∀ y ∈ symbols, g.Knows y) {x : String} (hx : x ∈ firstOfSequence m symbols) :
    g.Begins symbols x := by
  induction symbols with
  | nil => exact .inl ⟨mem_firstOfSequence_nil.1 hx, .refl⟩
  | cons y rest ih =>
    have hy := hk y List.mem_cons_self
    rcases mem_firstOfSequence_cons.1 hx with ⟨hxy, hne⟩ | ⟨hempty, hrest⟩
    · rcases hm.begins_symbol h hy hxy with ⟨rfl, -⟩ | ⟨hterm, tail, hd⟩
      · exact absurd rfl hne
      · exact .inr ⟨hterm, tail ++ rest, hd.append_right rest⟩
    · -- the first symbol vanishes, and the others decide
      rcases hm.begins_symbol h hy hempty with ⟨-, hd⟩ | ⟨hterm, -⟩
      · exact (ih (fun z hz => hk z (List.mem_cons_of_mem y hz)) hrest).of_derives
          (hd.append_right rest)
      · exact absurd hterm (Bool.eq_false_iff.1 hmark)

theorem FirstSound.step (hm : FirstSound g m) {e : String × List String}
    (he : e ∈ g.definitionOrder) : FirstSound g (firstStep m e) := by
  refine ⟨hm.toFirstStage.step h he, fun n hn x hx => ?_⟩
  obtain ⟨p, hp, rfl⟩ := (mem_definitionOrder h).1 he
  rcases SymbolSets.mem_members_extend.1 hx with hold | ⟨rfl, hnew⟩
  · exact hm.begins n hn x hold
  · exact (hm.begins_sequence h hmark (h.known p hp) (OrderedSet.mem_toList.1 hnew)).of_derives
      (derives_production hp)

theorem firstSound_firstSets : FirstSound g g.firstSets.1 := by
  refine SymbolSets.keep_settle_foldl (fun _ hm _ he => hm.step h hmark he)
    ⟨firstStage_initialFirst g, fun n hn x hx => ?_⟩
  rw [members_initialFirst, hn] at hx
  exact absurd hx (OrderedSet.not_mem_empty x)

end Sound

/-! ### Completeness -/

section Complete

variable {g : Grammar α} {first : SymbolSets} (hclosed : FirstClosed g first)

include hclosed

/-- A replacement adds no members. -/
theorem FirstClosed.of_rewrites {u v : List String} (hr : g.Rewrites u v) {x : String}
    (hx : x ∈ firstOfSequence first v) : x ∈ firstOfSequence first u := by
  obtain ⟨before, after, hp⟩ := hr
  rw [List.append_cons]
  apply firstOfSequence_subset before after _ hx
  intro y hy
  exact mem_firstOfSequence_singleton.2 (hclosed _ hp y hy)

theorem FirstClosed.of_derives {u v : List String} (hd : g.Derives u v) {x : String}
    (hx : x ∈ firstOfSequence first v) : x ∈ firstOfSequence first u := by
  induction hd with
  | refl => exact hx
  | tail _ hr ih => exact ih (hclosed.of_rewrites hr hx)

theorem FirstClosed.of_begins (hterm : ∀ t, g.isTerminal t = true → t ∈ first.members t)
    (hmark : g.isTerminal emptyMark = false) {symbols : List String} {x : String}
    (hb : g.Begins symbols x) : x ∈ firstOfSequence first symbols := by
  rcases hb with ⟨rfl, hd⟩ | ⟨hx, rest, hd⟩
  · exact hclosed.of_derives hd (mem_firstOfSequence_nil.2 rfl)
  · apply hclosed.of_derives hd
    have hne : x ≠ emptyMark := ne_of_isTerminal hx hmark
    exact mem_firstOfSequence_cons.2 (.inl ⟨hterm x hx, hne⟩)

end Complete

/-! ### Exactness -/

/-- The stored FIRST sets say of every sequence of symbols what it can begin with. -/
def FirstExact (g : Grammar α) : Prop :=
  ∀ symbols, (∀ y ∈ symbols, g.Knows y) → ∀ x, x ∈ g.firstOf symbols ↔ g.Begins symbols x

theorem same_withFirst (g : Grammar α) : Same g g.withFirst := ⟨rfl, rfl, rfl, rfl⟩

theorem firstExact_withFirst {g : Grammar α} (h : WellFormed g)
    (hmark : g.isTerminal emptyMark = false) : FirstExact g.withFirst := by
  intro symbols hk x
  rw [(same_withFirst g).begins_iff]
  refine ⟨(firstSound_firstSets h hmark).begins_sequence h hmark hk,
    (firstClosed_firstSets h).of_begins (fun t ht => ?_) hmark⟩
  rw [(firstStage_firstSets h).members_of_terminal h ht]
  exact OrderedSet.mem_singleton.2 rfl

namespace FirstExact

variable {g : Grammar α} (hfirst : FirstExact g)

include hfirst

theorem closed (h : WellFormed g) : FirstClosed g g.first := by
  intro p hp x hx
  have hname : ∀ y ∈ [p.name], g.Knows y := by simpa using .inr (h.defined p hp)
  rw [← mem_firstOfSequence_singleton]
  exact (hfirst _ hname x).2
    (((hfirst _ (h.known p hp) x).1 hx).of_derives (derives_production hp))

theorem mem_members {t : String} (ht : g.isTerminal t = true) : t ∈ g.first.members t := by
  have hsymbol : ∀ y ∈ [t], g.Knows y := by simpa using .inl ht
  rw [← mem_firstOfSequence_singleton]
  exact (hfirst _ hsymbol t).2 (.inr ⟨ht, [], .refl⟩)

theorem of_same {g' : Grammar α} (hs : Same g g') (he : g'.first = g.first) : FirstExact g' := by
  intro symbols hk x
  simp only [Knows, hs.isTerminal, hs.isNonterminal] at hk
  rw [firstOf, he, hs.begins_iff]
  exact hfirst symbols hk x

theorem change {g' : Grammar α} (h : WellFormed g) (hmark : g.isTerminal emptyMark = false)
    (hc : Change g g') (hs : Same g g') : FirstExact g' := by
  rcases hc.first_eq_or_stored with he | rfl
  · exact hfirst.of_same hs he
  · exact firstExact_withFirst h hmark

theorem performAll (h : WellFormed g) (hmark : g.isTerminal emptyMark = false)
    (calls : List (Call α)) (hrules : (g.performAll calls).rules.length = g.rules.length) :
    (g.performAll calls).isTerminal emptyMark = false ∧ FirstExact (g.performAll calls) :=
  performAll_induction_same (P := fun g => g.isTerminal emptyMark = false ∧ FirstExact g)
    (fun _ _ hc h hs ⟨hmark, hfirst⟩ => ⟨hs.isTerminal ▸ hmark, hfirst.change h hmark hc hs⟩)
    h ⟨hmark, hfirst⟩ calls hrules

end FirstExact

theorem isTerminal_emptyMark {names : List String} (hmark : emptyMark ∉ names)
    (calls : List (Call α)) :
    ((ofTerminals names : Grammar α).performAll calls).isTerminal emptyMark = false := by
  rw [Bool.eq_false_iff, ne_eq, isTerminal_performAll]
  exact not_or_intro hmark (by decide)

/-- After any calls of which the last stores the FIRST sets, these are exact: a sequence of symbols
has a terminal in its FIRST set if it derives something that begins with it, the mark if it
derives the empty sequence, and nothing else. -/
theorem firstOf_exact {names : List String} (hmark : emptyMark ∉ names) (calls : List (Call α)) :
    let g := (ofTerminals names : Grammar α).performAll (calls ++ [.storeFirst])
    (∀ symbols, (∀ y ∈ symbols, g.isTerminal y = true ∨ g.isNonterminal y = true) →
      (∀ t, g.isTerminal t = true →
        (t ∈ g.firstOf symbols ↔ ∃ rest, g.Derives symbols (t :: rest))) ∧
      (emptyMark ∈ g.firstOf symbols ↔ g.Derives symbols []) ∧
      ∀ x ∈ g.firstOf symbols, g.isTerminal x = true ∨ x = emptyMark) ∧
    ∀ n, g.isNonterminal n = true →
      ∃ s, g.first.get? n = some s ∧ ∀ x, x ∈ s ↔ x ∈ g.firstOf [n] := by
  intro g
  have hg : g = ((ofTerminals names : Grammar α).performAll calls).withFirst :=
    performAll_append ..
  have hwf := wellFormed_performAll names calls
  have hnot := isTerminal_emptyMark hmark (calls ++ [.storeFirst])
  have hexact : FirstExact g := hg ▸ firstExact_withFirst hwf (isTerminal_emptyMark hmark calls)
  refine ⟨fun symbols hk => ⟨fun t ht => ?_, ?_, fun x hx => ?_⟩, fun n hn => ?_⟩
  · have hne : t ≠ emptyMark := ne_of_isTerminal ht hnot
    rw [hexact symbols hk t, Begins]
    simp [hne, ht]
  · rw [hexact symbols hk emptyMark, Begins]
    simp [show g.isTerminal emptyMark = false from hnot]
  · exact ((hexact symbols hk x).1 hx).elim (fun hb => .inr hb.1) fun hb => .inl hb.1
  · have hmem : n ∈ g.first.keys := by
      rw [hg] at hn ⊢
      rw [(same_withFirst _).isNonterminal] at hn
      exact (firstStage_firstSets hwf).bounded.keys ▸ mem_keys_initialFirst.2 (.inl (.inr hn))
    exact ⟨g.first.members n, SymbolSets.get?_eq_members hmem,
      fun x => mem_firstOfSequence_singleton.symm⟩

/-- A nullable beginning lets the terminal behind it come first. -/
theorem firstOf_exact_nullable :
    let calls : List (Call Unit) := [.addProduction "s" ["a", "B"] none none,
      .addProduction "a" ["A"] none none, .addProduction "a" [] none none]
    let g := (ofTerminals ["A", "B"]).performAll (calls ++ [.storeFirst])
    emptyMark ∉ ["A", "B"] ∧
      (∀ y ∈ ["a", "s"], g.isTerminal y = true ∨ g.isNonterminal y = true) ∧
      (∃ rest, g.Derives ["a", "s"] ("B" :: rest)) ∧ ¬ g.Derives ["a", "s"] [] := by
  intro calls g
  have hmark : emptyMark ∉ ["A", "B"] := by decide
  have hk : ∀ y ∈ ["a", "s"], g.isTerminal y = true ∨ g.isNonterminal y = true := by decide
  obtain ⟨hterm, hempty, -⟩ := (firstOf_exact hmark calls).1 ["a", "s"] hk
  exact ⟨hmark, hk, (hterm "B" (by decide)).1 (by decide),
    fun hd => absurd (hempty.2 hd) (by decide)⟩

end FrontEnd.Grammar
