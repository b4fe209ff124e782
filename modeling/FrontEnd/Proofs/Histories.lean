import FrontEnd.Proofs.Analysis
import FrontEnd.Proofs.Uses

namespace FrontEnd

/-! ### Tables -/

namespace OrderedMap

variable {κ β γ : Type}

def mapValues (m : OrderedMap κ β) (f : β → γ) : OrderedMap κ γ :=
  ⟨m.entries.map fun e => (e.1, f e.2), by
    rw [List.map_map]
    exact m.nodup⟩

theorem keys_mapValues (m : OrderedMap κ β) (f : β → γ) : (m.mapValues f).keys = m.keys := by
  rw [keys, mapValues, List.map_map]
  rfl

variable [DecidableEq κ]

theorem get?_mapValues (m : OrderedMap κ β) (f : β → γ) (k : κ) :
    (m.mapValues f).get? k = (m.get? k).map f := by
  change (m.entries.map fun e => (e.1, f e.2)).lookup k = (m.entries.lookup k).map f
  induction m.entries with
  | nil => rfl
  | cons e rest ih =>
    obtain ⟨j, b⟩ := e
    by_cases h : k = j
    · simp [h]
    · simpa [List.lookup_cons, beq_false_of_ne h] using ih

theorem mapValues_update {m : OrderedMap κ β} {k : κ} {f : β → γ} {u : Option β → β}
    {v : Option γ → γ} (h : f (u (m.get? k)) = v ((m.get? k).map f)) :
    (m.update k u).mapValues f = (m.mapValues f).update k v := by
  apply ext_get?
  · simp only [keys_mapValues, keys_update]
  · intro j _
    rw [get?_mapValues, get?_update, get?_update, get?_mapValues, get?_mapValues]
    split
    · rw [Option.map_some, h]
    · rfl

end OrderedMap

namespace SymbolTable

def without (t : SymbolTable) (number : Nat) : SymbolTable :=
  ⟨t.entries.mapValues (·.filter (· ≠ number))⟩

variable {t : SymbolTable} {s : String} {n k : Nat}

theorem names_without (t : SymbolTable) (n : Nat) : (t.without n).names = t.names :=
  OrderedMap.keys_mapValues ..

theorem uses?_without (t : SymbolTable) (n : Nat) (x : String) :
    (t.without n).uses? x = (t.uses? x).map (·.filter (· ≠ n)) :=
  OrderedMap.get?_mapValues ..

theorem ext_uses? {t t' : SymbolTable} (hn : t.names = t'.names)
    (hu : ∀ x, t.uses? x = t'.uses? x) : t = t' :=
  congrArg SymbolTable.mk (OrderedMap.ext_get? hn fun k _ => hu k)

theorem without_without (t : SymbolTable) (n : Nat) : (t.without n).without n = t.without n := by
  apply ext_uses?
  · rw [names_without]
  · intro x
    rw [uses?_without, uses?_without, Option.map_map]
    congr 1
    funext uses
    simp

theorem without_add (t : SymbolTable) (s : String) (n : Nat) :
    (t.add s).2.without n = ((t.without n).add s).2 := by
  have hentries := OrderedMap.mapValues_update (m := t.entries) (k := s)
    (f := fun uses => uses.filter (· ≠ n)) (u := fun uses => uses.getD [])
    (v := fun uses => uses.getD []) (by cases t.entries.get? s <;> rfl)
  exact congrArg SymbolTable.mk hentries

theorem without_record (hk : k ≠ n) : (t.record s k).without n = (t.without n).record s k := by
  have hentries := OrderedMap.mapValues_update (m := t.entries) (k := s)
    (f := fun uses => uses.filter (· ≠ n)) (u := fun uses => uses.getD [] ++ [k])
    (v := fun uses => uses.getD [] ++ [k]) (by cases t.entries.get? s <;> simp [hk])
  exact congrArg SymbolTable.mk hentries

theorem without_record_self (hs : s ∈ t.names) : (t.record s n).without n = t.without n := by
  apply ext_uses?
  · rw [names_without, names_without, names_record, if_pos hs]
  · intro x
    rw [uses?_without, uses?_without, uses?, record, OrderedMap.get?_update, uses?]
    split
    · rename_i hx
      obtain ⟨uses, huses⟩ := Option.isSome_iff_exists.1 ((t.entries.mem_keys_iff s).1 hs)
      simp [hx, huses]
    · rfl

theorem without_recordAll (symbols : List String) (hk : k ≠ n) :
    (t.recordAll symbols k).without n = (t.without n).recordAll symbols k := by
  induction symbols generalizing t with
  | nil => rfl
  | cons s symbols ih =>
    have hcons (t : SymbolTable) :
        t.recordAll (s :: symbols) k = (t.record s k).recordAll symbols k := rfl
    rw [hcons, hcons, ih, without_record hk]

end SymbolTable

namespace Grammar

variable {α : Type}

/-! ### Grammars without results -/

/-- The grammar without production 0, its uses, and all results of analysis. -/
def bare (g : Grammar α) : Grammar α :=
  { g with
    nonterminals := g.nonterminals.without 0
    augmented := none
    rules := g.rules.map Production.bare
    first := ∅
    follow := ∅
    start := none }

theorem bare_bare (g : Grammar α) : g.bare.bare = g.bare := by
  simp only [bare, SymbolTable.without_without, List.map_map]
  rfl

theorem same_bare (g : Grammar α) : Same g g.bare where
  terminals := rfl
  nonterminals := SymbolTable.names_without ..
  rules := by
    rw [bare, List.map_map]
    rfl
  definitions := rfl

theorem bare_added (g : Grammar α) (name : String) (symbols : List String) (action : Option α)
    (precedence : Precedence) :
    (g.added name symbols action precedence).bare =
      g.bare.added name symbols action precedence := by
  have hlength : g.bare.rules.length = g.rules.length := (same_bare g).length_rules
  have hnonterminals : (g.added name symbols action precedence).nonterminals.without 0 =
      (g.bare.added name symbols action precedence).nonterminals := by
    rw [added, SymbolTable.without_recordAll _ (Nat.succ_ne_zero _), SymbolTable.without_add, added,
      hlength]
    rfl
  have hrules : (g.added name symbols action precedence).rules.map Production.bare =
      (g.bare.added name symbols action precedence).rules := by
    rw [added, added, hlength, List.map_append]
    rfl
  rw [bare, hnonterminals, hrules]
  simp only [added, hlength]
  rfl

theorem bare_augmentedWith {g : Grammar α} (h : WellFormed g) {p : Production α}
    (hp : p ∈ g.rules) : (g.augmentedWith p).bare = g.bare := by
  have hnonterminals : (g.augmentedWith p).nonterminals.without 0 = g.nonterminals.without 0 := by
    -- all that is recorded, if anything, is a use by production 0
    simp only [augmentedWith]
    split
    · rfl
    · exact SymbolTable.without_record_self (isNonterminal_iff.1 (h.defined p hp))
  rw [bare, hnonterminals]
  rfl

theorem bare_buildItems (g : Grammar α) : g.buildItems.bare = g.bare := by
  rw [bare, (same_buildItems g).rules]
  rfl

theorem bare_editLookaheads {g g' : Grammar α} {number index : Nat}
    {edit : OrderedMap Nat (List String) → OrderedMap Nat (List String)}
    (h : g.editLookaheads? number index edit = some g') : g'.bare = g.bare := by
  rw [bare, (same_editLookaheads h).1.rules, editLookaheads_eq_some h]
  rfl

/-! ### What is left of a run -/

def Call.constructs : Call α → Bool
  | .addProduction .. => true
  | .declarePrecedence .. => true
  | _ => false

/-- The successful ones among the calls of a run that put the grammar together. -/
def construction (g : Grammar α) : List (Call α) → List (Call α)
  | [] => []
  | c :: calls =>
    let p := g.perform c
    if c.constructs && p.reply.isOk then c :: construction p.grammar calls
    else construction p.grammar calls

/-- A call that puts the grammar together does not see results of analysis. -/
theorem bare_perform_of_constructs {g : Grammar α} {c : Call α} (hc : c.constructs = true)
    (hok : (g.perform c).reply.isOk = true) :
    (g.perform c).grammar.bare = (g.bare.perform c).grammar := by
  have heffect := effect_perform g c
  generalize (g.perform c).reply = reply, (g.perform c).grammar = g' at heffect hok ⊢
  cases heffect with
  | @added name symbols action term precedence hname hprec =>
    rw [perform_addProduction (g := g.bare) hname hprec, bare_added]
  | @declared term assoc level a hterm hassoc =>
    rw [perform_declarePrecedence (g := g.bare) hterm (hassoc ▸ Assoc.ofText_text a)]
    rfl
  | _ => contradiction

/-- Other calls change nothing but results of analysis, and failing ones nothing at all. -/
theorem bare_perform {g : Grammar α} (h : WellFormed g) {c : Call α}
    (hc : (c.constructs && (g.perform c).reply.isOk) = false) :
    (g.perform c).grammar.bare = g.bare := by
  have heffect := effect_perform g c
  generalize (g.perform c).reply = reply, (g.perform c).grammar = g' at heffect hc ⊢
  cases heffect with
  | added | declared => contradiction
  | augmented hrules => exact bare_augmentedWith h (hrules ▸ List.mem_cons_self)
  | items => exact bare_buildItems g
  | lookaheads hitem => exact bare_editLookaheads hitem
  | _ => rfl

/-- Without results of analysis, a run makes what is left of it makes. -/
theorem bare_performAll {g : Grammar α} (h : WellFormed g) (calls : List (Call α)) :
    (g.performAll calls).bare = g.bare.performAll (g.construction calls) := by
  induction calls generalizing g with
  | nil => rfl
  | cons c calls ih =>
    have hnext : WellFormed (g.perform c).grammar := h.change (change_perform g c)
    rw [performAll_cons, ih hnext, construction]
    cases hc : c.constructs && (g.perform c).reply.isOk with
    | true =>
      rw [Bool.and_eq_true] at hc
      simp only [if_true, performAll_cons]
      rw [bare_perform_of_constructs hc.1 hc.2]
    | false =>
      simp only [Bool.false_eq_true, if_false]
      rw [bare_perform h hc]

theorem rules_ne_nil_of_mem_construction {g : Grammar α} (h : WellFormed g) {name : String}
    {symbols : List String} {action : Option α} {term : Option String} {calls : List (Call α)}
    (hc : Call.addProduction name symbols action term ∈ g.construction calls) :
    (g.performAll calls).rules ≠ [] := by
  induction calls generalizing g with
  | nil => contradiction
  | cons c calls ih =>
    have hnext : WellFormed (g.perform c).grammar := h.change (change_perform g c)
    rw [construction] at hc
    split at hc
    · rename_i hkept
      rcases List.mem_cons.1 hc with rfl | hc
      · -- the production is there from now on
        have hle := length_rules_le_performAll hnext calls
        rw [performAll_cons]
        have heffect := effect_addProduction g name symbols action term
        generalize (g.perform _).reply = reply, (g.perform _).grammar = g' at heffect hkept hle ⊢
        cases heffect with
        | added =>
          intro hnil
          rw [length_rules_added, hnil, List.length_nil] at hle
          omega
        | _ => contradiction
      · exact ih hnext hc
    · exact ih hnext hc

/-! ### Analysis -/

def analysis : List (Call α) := [.augment, .storeFirst, .storeFollow, .buildItems]

def replies (g : Grammar α) : List (Call α) → List (Except BuildError Reply)
  | [] => []
  | c :: calls => (g.perform c).reply :: (g.perform c).grammar.replies calls

def analysed (g : Grammar α) (p : Production α) : Grammar α :=
  (((g.augmentedWith p).withFirst).withFollow p.name).buildItems

theorem analysed_eq (g : Grammar α) (p : Production α) :
    g.analysed p =
      { terminals := g.terminals
        nonterminals := (g.augmentedWith p).nonterminals
        augmented := (g.augmentedWith p).augmented.map (·.withItems g.productionsFor)
        rules := g.rules.map (·.withItems g.productionsFor)
        definitions := g.definitions
        precedences := g.precedences
        first := (g.augmentedWith p).withFirst.first
        follow := ((g.augmentedWith p).withFirst.followSets p.name).1
        start := some p.name } := rfl

section Analysis

variable {g : Grammar α} (h : WellFormed g) {p : Production α} {rest : List (Production α)}
  (hrules : g.rules = p :: rest)

include h hrules

theorem wellFormed_augmentedWith : WellFormed (g.augmentedWith p) := by
  have hc : Change g (g.augmentedWith p) := .augmented hrules
  exact h.change hc

theorem perform_storeFollow_of_augmentedWith :
    (g.augmentedWith p).withFirst.perform .storeFollow =
      ⟨.ok .done, [.followSettled ((g.augmentedWith p).withFirst.followSets p.name).2],
        (g.augmentedWith p).withFirst.withFollow p.name⟩ :=
  perform_storeFollow rfl (isEmpty_firstSets (wellFormed_augmentedWith h hrules))

theorem performAll_analysis : g.performAll analysis = g.analysed p := by
  rw [analysis, performAll_cons, perform_augment hrules, performAll_cons, performAll_cons]
  have hfollow := perform_storeFollow_of_augmentedWith h hrules
  rw [perform_storeFirst, hfollow]
  rfl

theorem replies_analysis : g.replies analysis = [.ok .done, .ok .done, .ok .done, .ok .done] := by
  simp only [analysis, replies]
  rw [perform_augment hrules]
  have hfollow := perform_storeFollow_of_augmentedWith h hrules
  rw [perform_storeFirst, hfollow]
  rfl

theorem bare_analysed : (g.analysed p).bare = g.bare := by
  rw [analysed, bare_buildItems]
  exact bare_augmentedWith h (hrules ▸ List.mem_cons_self)

/-- An analysis does not see results of earlier ones. -/
theorem analysed_bare : g.bare.analysed p.bare =
    { g.analysed p with nonterminals := (g.bare.analysed p.bare).nonterminals } := by
  have hrules' : g.bare.rules = p.bare :: rest.map Production.bare := by
    rw [bare, hrules, List.map_cons]
  have hbare : WellFormed g.bare := h.of_same (same_bare g) nofun
  have hs : Same (g.augmentedWith p) (g.bare.augmentedWith p.bare) :=
    ((same_augmentedWith h (hrules ▸ List.mem_cons_self)).symm.trans (same_bare g)).trans
      (same_augmentedWith hbare (hrules' ▸ List.mem_cons_self))
  have hfirst : (g.bare.augmentedWith p.bare).withFirst.first =
      (g.augmentedWith p).withFirst.first :=
    congrArg Prod.fst (hs.firstSets (wellFormed_augmentedWith h hrules)
      (wellFormed_augmentedWith hbare hrules'))
  have hstored : Same (g.augmentedWith p).withFirst (g.bare.augmentedWith p.bare).withFirst :=
    ((same_withFirst _).symm.trans hs).trans (same_withFirst _)
  have hfollow := congrArg Prod.fst (hstored.followSets hfirst p.name)
  -- the items are made of what a production says and of the productions of each nonterminal
  have hitems : g.bare.rules.map (·.withItems g.bare.productionsFor) =
      g.rules.map (·.withItems g.productionsFor) := by
    rw [bare, List.map_map]
    rfl
  have hname : p.bare.name = p.name := rfl
  rw [analysed_eq, analysed_eq, hfirst, hname, hfollow, hitems]
  rfl

end Analysis

theorem items_buildItems {g : Grammar α} {p : Production α} (hp : p ∈ g.buildItems.productions) :
    p.items.length = p.symbols.length + 1 ∧ ∀ i ∈ p.items, i.lookaheads = ∅ := by
  obtain ⟨q, rfl⟩ : ∃ q : Production α, p = q.withItems g.productionsFor := by
    rcases List.mem_append.1 hp with hp | hp
    · obtain ⟨q, -, rfl⟩ := Option.map_eq_some_iff.1 (Option.mem_toList.1 hp)
      exact ⟨q, rfl⟩
    · obtain ⟨q, -, rfl⟩ := List.mem_map.1 hp
      exact ⟨q, rfl⟩
  refine ⟨by simp [Production.withItems], fun i hi => ?_⟩
  obtain ⟨n, -, rfl⟩ := List.mem_map.1 hi
  rfl

/-- After any calls that add a production, an analysis succeeds and finds what it would have found
if only the successful additions of productions and precedences had been made, in their order.
The uses of a symbol differ at most in the place of production 0. -/
theorem analysis_of_construction (names : List String) (calls : List (Call α)) :
    let made := (ofTerminals names : Grammar α).construction calls
    (∃ name symbols action term, Call.addProduction name symbols action term ∈ made) →
    let g := (ofTerminals names : Grammar α).performAll calls
    let g' := (ofTerminals names : Grammar α).performAll made
    let r := g.performAll analysis
    let r' := g'.performAll analysis
    (g.replies analysis = [.ok .done, .ok .done, .ok .done, .ok .done] ∧
      g'.replies analysis = [.ok .done, .ok .done, .ok .done, .ok .done]) ∧
    r'.start = r.start ∧ r'.precedences = r.precedences ∧ r'.productions = r.productions ∧
    (∀ p ∈ r.productions,
      p.items.length = p.symbols.length + 1 ∧ ∀ i ∈ p.items, i.lookaheads = ∅) ∧
    r'.terminals = r.terminals ∧ r'.nonterminals.names = r.nonterminals.names ∧
    r'.first = r.first ∧ r'.follow = r.follow ∧
    ∀ x, (r'.nonterminals.uses? x).map (·.filter (· ≠ 0)) =
        (r.nonterminals.uses? x).map (·.filter (· ≠ 0)) ∧
      r'.nonterminals.timesUsed x 0 = r.nonterminals.timesUsed x 0 := by
  intro made hadded g g' r r'
  have hwf : WellFormed g := wellFormed_performAll names calls
  have hg' : g' = g.bare := (bare_performAll (wellFormed_ofTerminals names) calls).symm
  have hwf' : WellFormed g.bare := hg' ▸ wellFormed_performAll names made
  obtain ⟨name, symbols, action, term, hmem⟩ := hadded
  have hrules : g.rules ≠ [] :=
    rules_ne_nil_of_mem_construction (wellFormed_ofTerminals names) hmem
  obtain ⟨p, rest, hrules⟩ := List.exists_cons_of_ne_nil hrules
  have hrules' : g.bare.rules = p.bare :: rest.map Production.bare := by
    rw [bare, hrules, List.map_cons]
  have hr : r = g.analysed p := performAll_analysis hwf hrules
  have hanalysed : r' = g.bare.analysed p.bare := by
    rw [← performAll_analysis hwf' hrules', ← hg']
  -- what the analysis of the one stores is what that of the other stores
  have hr' : r' = { r with nonterminals := r'.nonterminals } := by
    rw [hanalysed, hr]
    exact analysed_bare hwf hrules
  -- the uses by production 0 are all that an analysis adds to the tables
  have hbare : r'.bare = r.bare := by
    rw [hr, bare_analysed hwf hrules, hanalysed, bare_analysed hwf' hrules', bare_bare]
  have hwithout : r'.nonterminals.without 0 = r.nonterminals.without 0 :=
    congrArg Grammar.nonterminals hbare
  have hnames := congrArg SymbolTable.names hwithout
  rw [SymbolTable.names_without, SymbolTable.names_without] at hnames
  have hstart : r'.start = r.start := by rw [hr']
  refine ⟨⟨replies_analysis hwf hrules, hg' ▸ replies_analysis hwf' hrules'⟩, hstart, by rw [hr'],
    by rw [hr', productions, productions], fun q hq => items_buildItems (hr ▸ hq), by rw [hr'],
    hnames, by rw [hr'], by rw [hr'], fun x => ⟨?_, ?_⟩⟩
  · rw [← SymbolTable.uses?_without, ← SymbolTable.uses?_without, hwithout]
  · have hrun : r = (ofTerminals names).performAll (calls ++ analysis) :=
      (performAll_append ..).symm
    have hrun' : r' = (ofTerminals names).performAll (made ++ analysis) :=
      (performAll_append ..).symm
    have hused : StartUsed r := hrun ▸ startUsed_performAll names _
    have hused' : StartUsed r' := hrun' ▸ startUsed_performAll names _
    rw [hused', hused, hstart]

/-- Of a run with two analyses on the way and three calls that fail, four calls count. -/
theorem analysis_of_construction_interleaved :
    let calls : List (Call Unit) := [.augment, .declarePrecedence "A" "left" 1,
      .addProduction "s" ["a", "s"] none none, .storeFirst, .augment, .storeFollow, .buildItems,
      .setLookaheads 1 0 7 ["A"], .declarePrecedence "A" "right" 2,
      .addProduction "A" [] none none, .addProduction "a" ["B"] none (some "A"),
      .storeFollow, .augment, .addProduction "a" ["s"] none none]
    let made := (ofTerminals ["A", "B"]).construction calls
    (∃ name symbols action term, Call.addProduction name symbols action term ∈ made) ∧
      made.length = 4 ∧
      (((ofTerminals ["A", "B"]).performAll made).performAll analysis).productions =
        (((ofTerminals ["A", "B"]).performAll calls).performAll analysis).productions ∧
      (((ofTerminals ["A", "B"]).performAll made).performAll analysis).follow =
        (((ofTerminals ["A", "B"]).performAll calls).performAll analysis).follow := by
  intro calls made
  have hmade : made = [.declarePrecedence "A" "left" 1, .addProduction "s" ["a", "s"] none none,
      .addProduction "a" ["B"] none (some "A"), .addProduction "a" ["s"] none none] := rfl
  have hadded : ∃ name symbols action term, Call.addProduction name symbols action term ∈ made :=
    ⟨"s", ["a", "s"], none, none, hmade ▸ List.mem_cons_of_mem _ List.mem_cons_self⟩
  obtain ⟨-, -, -, hproductions, -, -, -, -, hfollow, -⟩ :=
    analysis_of_construction ["A", "B"] calls hadded
  exact ⟨hadded, congrArg List.length hmade, hproductions, hfollow⟩

end Grammar
end FrontEnd
