import FrontEnd.Grammar.Follow
import FrontEnd.Proofs.First

namespace FrontEnd.Grammar

variable {α : Type}

/-- A terminal can come right after `b`; the end mark stands for nothing that need come after. -/
def Succeeds (g : Grammar α) (b x : String) : Prop :=
  (g.isTerminal x = true ∧ ∃ a u v, g.isNonterminal a = true ∧ g.Derives [a] (u ++ b :: x :: v)) ∨
    x = endMark ∧ ∃ start u, g.start = some start ∧ g.Derives [start] (u ++ [b])

/-! ### Occurrences -/

theorem mem_occurrencesIn {g : Grammar α} {name : String} {symbols : List String}
    {o : Occurrence} :
    o ∈ g.occurrencesIn name symbols ↔ o.name = name ∧ g.isNonterminal o.symbol = true ∧
      ∃ u, symbols = u ++ o.symbol :: o.rest := by
  induction symbols with
  | nil => simp [occurrencesIn]
  | cons b rest ih =>
    obtain ⟨n, s, r⟩ := o
    rw [occurrencesIn]
    constructor
    · intro ho
      split at ho
      · rename_i hb
        rcases List.mem_cons.1 ho with he | ho
        · simp only [Occurrence.mk.injEq] at he
          obtain ⟨rfl, rfl, rfl⟩ := he
          exact ⟨rfl, hb, [], rfl⟩
        · obtain ⟨hn, hs, u, rfl⟩ := ih.1 ho
          exact ⟨hn, hs, b :: u, rfl⟩
      · obtain ⟨hn, hs, u, rfl⟩ := ih.1 ho
        exact ⟨hn, hs, b :: u, rfl⟩
    · rintro ⟨rfl, hs, u, hu⟩
      cases u with
      | nil =>
        simp only [List.nil_append, List.cons.injEq] at hu
        obtain ⟨rfl, rfl⟩ := hu
        rw [if_pos hs]
        exact List.mem_cons_self
      | cons c u =>
        simp only [List.cons_append, List.cons.injEq] at hu
        have hmem := ih.2 ⟨rfl, hs, u, hu.2⟩
        split
        · exact List.mem_cons_of_mem _ hmem
        · exact hmem

theorem mem_occurrences {g : Grammar α} {o : Occurrence} :
    o ∈ g.occurrences ↔ g.isNonterminal o.symbol = true ∧
      ∃ p ∈ g.rules, p.name = o.name ∧ ∃ u, p.symbols = u ++ o.symbol :: o.rest := by
  simp only [occurrences, List.mem_flatMap, mem_occurrencesIn]
  constructor
  · rintro ⟨p, hp, hname, hs, hu⟩
    exact ⟨hs, p, hp, hname.symm, hu⟩
  · rintro ⟨hs, p, hp, hname, hu⟩
    exact ⟨p, hp, hname.symm, hs, hu⟩

theorem occurrencesIn_congr {g g' : Grammar α} (h : g'.isNonterminal = g.isNonterminal)
    (name : String) (symbols : List String) :
    g'.occurrencesIn name symbols = g.occurrencesIn name symbols := by
  induction symbols with
  | nil => rfl
  | cons b rest ih => rw [occurrencesIn, occurrencesIn, h, ih]

theorem Same.occurrences {g g' : Grammar α} (h : Same g g') : g'.occurrences = g.occurrences := by
  have hname : g'.occurrencesIn = g.occurrencesIn := by
    funext name symbols
    exact occurrencesIn_congr h.isNonterminal name symbols
  rw [Grammar.occurrences, Grammar.occurrences, hname, List.flatMap_def, List.flatMap_def,
    h.map_rules _ fun _ => rfl]

theorem Same.followPass {g g' : Grammar α} (h : Same g g') (hfirst : g'.first = g.first) :
    g'.followPass = g.followPass := by
  have hstep : g'.followStep = g.followStep := by
    funext m o
    rw [followStep, followStep, firstOf, firstOf, hfirst]
  funext m
  rw [Grammar.followPass, Grammar.followPass, h.occurrences, hstep]

/-! ### The sets to begin with -/

theorem members_initialFollow (g : Grammar α) (start b : String) :
    (g.initialFollow start).members b = if b = start then .singleton endMark else ∅ := by
  rw [SymbolSets.members, initialFollow, OrderedMap.get?_insert]
  split
  · rfl
  · rw [OrderedMap.get?_ofList, ← List.map_reverse, lookup_map_pair]
    split <;> rfl

theorem mem_keys_initialFollow {g : Grammar α} {start b : String} :
    b ∈ (g.initialFollow start).keys ↔ g.isNonterminal b = true ∨ b = start := by
  rw [initialFollow, OrderedMap.mem_keys_iff, OrderedMap.get?_insert, isNonterminal_iff,
    OrderedMap.get?_ofList, ← List.map_reverse, lookup_map_pair]
  by_cases hb : b = start
  · simp [hb]
  · by_cases hn : b ∈ g.nonterminals.names <;> simp [hb, hn]

/-! ### Passes -/

/-- The left-hand side may be the symbol itself: then it has by now what the first half of the
step has added, which the symbol has got already. -/
theorem mem_members_followStep {g : Grammar α} {m : SymbolSets} {o : Occurrence} {k x : String} :
    x ∈ (g.followStep m o).members k ↔ x ∈ m.members k ∨ k = o.symbol ∧
      (x ∈ g.firstOf o.rest ∧ x ≠ emptyMark ∨
        emptyMark ∈ g.firstOf o.rest ∧ x ∈ m.members o.name) := by
  rw [followStep]
  split
  · rename_i he
    simp only [SymbolSets.mem_members_extend, OrderedSet.mem_toList, List.mem_filter, bne_iff_ne,
      he, true_and]
    tauto
  · rename_i he
    simp only [SymbolSets.mem_members_extend, OrderedSet.mem_toList, List.mem_filter, bne_iff_ne,
      he, false_and, or_false]

theorem grows_followStep {g : Grammar α} {m : SymbolSets} {o : Occurrence}
    (ho : o.symbol ∈ m.keys) : SymbolSets.Grows m (g.followStep m o) := by
  rw [followStep]
  have hfirst := SymbolSets.grows_extend ((g.firstOf o.rest).toList.filter (· != emptyMark)) ho
  split
  · exact hfirst.trans (SymbolSets.grows_extend _ (hfirst.keys ▸ ho))
  · exact hfirst

theorem knows_rest {g : Grammar α} (hwf : WellFormed g) {o : Occurrence} (ho : o ∈ g.occurrences) :
    ∀ y ∈ o.rest, g.Knows y := by
  intro y hy
  obtain ⟨-, p, hp, -, u, hsymbols⟩ := mem_occurrences.1 ho
  exact hwf.known p hp y (by simp [hsymbols, hy])

/-- A step carries over what two families have in common in a layer, if what stands behind the
symbol begins with the same or more. -/
theorem within_followStep {β : Type} {g : Grammar α} {g' : Grammar β} {m m' : SymbolSets}
    {o : Occurrence} {x : String} (hnext : ∀ y ∈ g.firstOf o.rest, y ∈ g'.firstOf o.rest)
    (hm : SymbolSets.Within x m m') :
    SymbolSets.Within x (g.followStep m o) (g'.followStep m' o) := by
  intro k hk
  rw [mem_members_followStep] at hk ⊢
  rcases hk with hk | ⟨rfl, ⟨hx, hne⟩ | ⟨he, hx⟩⟩
  · exact .inl (hm k hk)
  · exact .inr ⟨rfl, .inl ⟨hnext x hx, hne⟩⟩
  · exact .inr ⟨rfl, .inr ⟨hnext emptyMark he, hm o.name hx⟩⟩

section Pass

variable {g : Grammar α} {start : String} {m : SymbolSets}

theorem grows_followStep_of_keys (hm : m.keys = (g.initialFollow start).keys) {o : Occurrence}
    (ho : o ∈ g.occurrences) : SymbolSets.Grows m (g.followStep m o) :=
  grows_followStep (hm ▸ mem_keys_initialFollow.2 (.inl (mem_occurrences.1 ho).1))

theorem keys_followStep (hm : m.keys = (g.initialFollow start).keys) {o : Occurrence}
    (ho : o ∈ g.occurrences) : (g.followStep m o).keys = (g.initialFollow start).keys :=
  (grows_followStep_of_keys hm ho).keys.symm.trans hm

theorem keys_followPass (hm : m.keys = (g.initialFollow start).keys) :
    (g.followPass m).keys = (g.initialFollow start).keys :=
  SymbolSets.keep_foldl (P := fun m => m.keys = (g.initialFollow start).keys)
    (fun _ hm _ ho => keys_followStep hm ho) hm

theorem grows_followPass (hm : m.keys = (g.initialFollow start).keys) :
    SymbolSets.Grows m (g.followPass m) :=
  SymbolSets.grows_foldl (P := fun m => m.keys = (g.initialFollow start).keys)
    (fun _ hm _ ho => keys_followStep hm ho) (fun _ hm _ ho => grows_followStep_of_keys hm ho) hm

theorem within_followPass {m' : SymbolSets} {x : String} (hm : SymbolSets.Within x m m') :
    SymbolSets.Within x (g.followPass m) (g.followPass m') :=
  List.foldl_rel hm fun _ _ _ _ hm => within_followStep (fun _ hy => hy) hm

theorem members_followPass (m : SymbolSets) {k : String} (hk : k ∉ g.nonterminals.names) :
    (g.followPass m).members k = m.members k := by
  apply SymbolSets.keep_foldl (P := fun m' => m'.members k = m.members k) _ rfl
  intro m' hm' o ho
  have hne : k ≠ o.symbol := by
    rintro rfl
    exact hk (isNonterminal_iff.1 (mem_occurrences.1 ho).1)
  rw [← hm', followStep]
  split
  · rw [SymbolSets.members_extend, if_neg hne, SymbolSets.members_extend, if_neg hne]
  · rw [SymbolSets.members_extend, if_neg hne]

end Pass

/-- Each layer grows by itself, in as many passes as there are nonterminals at the most. -/
theorem iterate_followPass (g : Grammar α) (start : String) :
    g.followPass (g.followPass^[g.nonterminals.names.length] (g.initialFollow start)) =
      g.followPass^[g.nonterminals.names.length] (g.initialFollow start) := by
  have hkeep : ∀ m, m.keys = (g.initialFollow start).keys →
      (g.followPass m).keys = (g.initialFollow start).keys := fun _ hm => keys_followPass hm
  have hgrow : ∀ m, m.keys = (g.initialFollow start).keys → SymbolSets.Grows m (g.followPass m) :=
    fun _ hm => grows_followPass hm
  have hlast (x : String) : SymbolSets.Within x
      (g.followPass (g.followPass^[g.nonterminals.names.length] (g.initialFollow start)))
      (g.followPass^[g.nonterminals.names.length] (g.initialFollow start)) :=
    SymbolSets.within_iterate hkeep hgrow (fun m _ _ hk => members_followPass m hk) rfl
      (fun _ _ hidle => within_followPass hidle) le_rfl
  exact (SymbolSets.grows_iterate hkeep hgrow rfl _).eq_of_within hlast

/-- The limit of passes is never what ends them, whatever the stored FIRST sets are. -/
theorem stops_followSets (g : Grammar α) (start : String) :
    SymbolSets.Stops g.followPass (g.initialFollow start) (g.followSets start).1
        (g.followSets start).2 ∧
      (g.followSets start).2 ≤ g.nonterminals.names.length + 1 := by
  apply SymbolSets.stops_settle (iterate_followPass g start)
  have hle : g.nonterminals.names.length ≤ (g.initialFollow start).keys.length := by
    apply g.nonterminals.entries.nodup.length_le_of_subset
    intro n hn
    exact mem_keys_initialFollow.2 (.inl (isNonterminal_iff.2 hn))
  have hlt := lt_passLimit g hle
  omega

theorem settled_followSets (g : Grammar α) (start : String) :
    SymbolSets.Settled g.followStep g.occurrences
      (fun m => m.keys = (g.initialFollow start).keys) (g.initialFollow start)
      (g.followSets start).1 :=
  SymbolSets.settled_of_fixed (fun _ hm _ ho => keys_followStep hm ho)
    (fun _ hm _ ho => grows_followStep_of_keys hm ho) rfl (stops_followSets g start).1.fixed

/-! ### Completeness -/

structure FollowClosed (g : Grammar α) (start : String) (m : SymbolSets) : Prop where
  start : endMark ∈ m.members start
  next : ∀ o ∈ g.occurrences, ∀ x ∈ g.firstOf o.rest, x ≠ emptyMark → x ∈ m.members o.symbol
  last : ∀ o ∈ g.occurrences, emptyMark ∈ g.firstOf o.rest →
    ∀ x ∈ m.members o.name, x ∈ m.members o.symbol

theorem followClosed_followSets (g : Grammar α) (start : String) :
    FollowClosed g start (g.followSets start).1 := by
  have hsettled := settled_followSets g start
  refine ⟨hsettled.grows.mem ?_, fun o ho x hx hne => ?_, fun o ho he x hx => ?_⟩
  · rw [members_initialFollow, if_pos rfl]
    exact OrderedSet.mem_singleton.2 rfl
  · rw [← hsettled.fixed o ho]
    exact mem_members_followStep.2 (.inr ⟨rfl, .inl ⟨hx, hne⟩⟩)
  · rw [← hsettled.fixed o ho]
    exact mem_members_followStep.2 (.inr ⟨rfl, .inr ⟨he, hx⟩⟩)

theorem append_eq_append_cons {u v a c : List String} {b : String} (h : u ++ v = a ++ b :: c) :
    (∃ d, u = a ++ b :: d ∧ c = d ++ v) ∨ ∃ d, a = u ++ d ∧ v = d ++ b :: c := by
  rcases List.append_eq_append_iff.1 h with ⟨d, ha, hv⟩ | ⟨d, hu, hc⟩
  · exact .inr ⟨d, ha, hv⟩
  · cases d with
    | nil => exact .inr ⟨[], by simpa using hu.symm, hc.symm⟩
    | cons e d =>
      simp only [List.cons_append, List.cons.injEq] at hc
      obtain ⟨rfl, hc⟩ := hc
      exact .inl ⟨d, hu, hc⟩

/-- In a sentential form of `a`, a nonterminal has in its set what the text behind it begins with,
and all of the set of `a` if that text can be empty. -/
def Covered (g : Grammar α) (m : SymbolSets) (a : String) (form : List String) : Prop :=
  ∀ u b v, form = u ++ b :: v → g.isNonterminal b = true →
    (∀ x ∈ g.firstOf v, x ≠ emptyMark → x ∈ m.members b) ∧
      (emptyMark ∈ g.firstOf v → ∀ x ∈ m.members a, x ∈ m.members b)

section Complete

variable {g : Grammar α} {start : String} {m : SymbolSets} {a : String}

/-- Only three places of a form matter: before, in and behind the right-hand side put in. -/
theorem Covered.of_rewrites (hfirst : FirstClosed g g.first) (hm : FollowClosed g start m)
    (hwf : WellFormed g) {form form' : List String} (hc : Covered g m a form)
    (hr : g.Rewrites form form') : Covered g m a form' := by
  obtain ⟨before, after, hp⟩ := hr
  rename_i p
  intro u b v heq hb
  rcases append_eq_append_cons heq with ⟨d, hd, rfl⟩ | ⟨d, rfl, hafter⟩
  · rcases append_eq_append_cons hd with ⟨e, rfl, rfl⟩ | ⟨e, rfl, hsymbols⟩
    · -- before: what stands behind `b` begins with nothing that it could not begin with already
      have hold := hc u b (e ++ p.name :: after) (by simp) hb
      have hsub : ∀ x ∈ g.firstOf (e ++ p.symbols ++ after),
          x ∈ g.firstOf (e ++ p.name :: after) :=
        fun x hx => hfirst.of_rewrites (.replace e after hp) hx
      exact ⟨fun x hx => hold.1 x (hsub x hx), fun he => hold.2 (hsub _ he)⟩
    · -- in: `b` is an occurrence, which passes on what comes behind the left-hand side
      have ho : (⟨p.name, b, d⟩ : Occurrence) ∈ g.occurrences :=
        mem_occurrences.2 ⟨hb, p, hp, rfl, e, hsymbols⟩
      have hold := hc before p.name after rfl (hwf.defined p hp)
      constructor
      · intro x hx hne
        rcases mem_firstOfSequence_append.1 hx with ⟨hx, -⟩ | ⟨he, hx⟩
        · exact hm.next _ ho x hx hne
        · exact hm.last _ ho he x (hold.1 x hx hne)
      · intro he x hx
        rcases mem_firstOfSequence_append.1 he with ⟨-, hne⟩ | ⟨hd, he⟩
        · exact absurd rfl hne
        · exact hm.last _ ho hd x (hold.2 he x hx)
  · -- behind: nothing has changed
    exact hc (before ++ p.name :: d) b v (by simp [hafter]) hb

theorem covered_of_derives (hfirst : FirstClosed g g.first) (hm : FollowClosed g start m)
    (hwf : WellFormed g) {form : List String} (hd : g.Derives [a] form) : Covered g m a form := by
  induction hd with
  | refl =>
    intro u b v heq hb
    obtain ⟨rfl, rfl, rfl⟩ : u = [] ∧ b = a ∧ v = [] := by
      cases u with
      | nil => simpa [eq_comm] using heq
      | cons c u => simp at heq
    exact ⟨fun x hx hne => absurd (mem_firstOfSequence_nil.1 hx) hne, fun _ x hx => hx⟩
  | tail _ hr ih => exact ih.of_rewrites hfirst hm hwf hr

theorem FollowClosed.of_succeeds (hfirst : FirstExact g)
    (hmark : g.isTerminal emptyMark = false) (hwf : WellFormed g)
    (hstart : g.start = some start) (hm : FollowClosed g start m) {b x : String}
    (hb : g.isNonterminal b = true) (hs : g.Succeeds b x) : x ∈ m.members b := by
  rcases hs with ⟨hx, a, u, v, -, hd⟩ | ⟨rfl, s, u, hs, hd⟩
  · -- the text behind `b` begins with `x` itself
    have hne : x ≠ emptyMark := ne_of_isTerminal hx hmark
    exact (covered_of_derives (hfirst.closed hwf) hm hwf hd u b (x :: v) rfl hb).1 x
      (mem_firstOfSequence_cons.2 (.inl ⟨hfirst.mem_members hx, hne⟩)) hne
  · -- nothing stands behind `b`, so it has all that the start symbol has
    obtain rfl : start = s := Option.some.inj (hstart.symm.trans hs)
    exact (covered_of_derives (hfirst.closed hwf) hm hwf hd u b [] rfl hb).2
      (mem_firstOfSequence_nil.2 rfl) endMark hm.start

end Complete

/-! ### Soundness -/

/-- No step of a pass adds what its occurrence does not ask for. -/
theorem of_mem_followSets {g : Grammar α} {start : String} {F : String → String → Prop}
    (hstart : F start endMark)
    (hnext : ∀ o ∈ g.occurrences, ∀ x ∈ g.firstOf o.rest, x ≠ emptyMark → F o.symbol x)
    (hlast : ∀ o ∈ g.occurrences, emptyMark ∈ g.firstOf o.rest →
      ∀ x, F o.name x → F o.symbol x) :
    ∀ b, ∀ x ∈ (g.followSets start).1.members b, F b x := by
  apply SymbolSets.keep_settle_foldl (P := fun m => ∀ b, ∀ x ∈ m.members b, F b x)
  · intro m hm o ho b x hx
    rcases mem_members_followStep.1 hx with hold | ⟨rfl, ⟨hx, hne⟩ | ⟨he, hx⟩⟩
    · exact hm b x hold
    · exact hnext o ho x hx hne
    · exact hlast o ho he x (hm o.name x hx)
  · intro b x hx
    rw [members_initialFollow] at hx
    split at hx
    · rename_i hb
      obtain rfl := OrderedSet.mem_singleton.1 hx
      exact hb ▸ hstart
    · exact absurd hx (OrderedSet.not_mem_empty x)

section Sound

variable {g : Grammar α} (hwf : WellFormed g) (hmark : g.isTerminal emptyMark = false)
  (hfirst : FirstExact g)

include hwf hfirst

/-- What comes behind an occurrence begins with comes right after its symbol. -/
theorem succeeds_of_next {o : Occurrence} (ho : o ∈ g.occurrences) {x : String}
    (hx : x ∈ g.firstOf o.rest) (hne : x ≠ emptyMark) : g.Succeeds o.symbol x := by
  obtain ⟨-, p, hp, hname, u, hsymbols⟩ := mem_occurrences.1 ho
  rcases (hfirst o.rest (knows_rest hwf ho) x).1 hx with ⟨rfl, -⟩ | ⟨hterm, v, hd⟩
  · exact absurd rfl hne
  · have hprod : g.Derives [p.name] (u ++ o.symbol :: o.rest) :=
      hsymbols ▸ derives_production hp
    have hrest := hd.append_left (u ++ [o.symbol])
    simp only [List.append_assoc, List.singleton_append] at hrest
    exact .inl ⟨hterm, p.name, u, v, hwf.defined p hp, hprod.trans hrest⟩

include hmark

/-- What comes after the left-hand side comes after a symbol at whose end nothing need follow. -/
theorem succeeds_of_last {o : Occurrence} (ho : o ∈ g.occurrences)
    (he : emptyMark ∈ g.firstOf o.rest) {x : String} (hx : g.Succeeds o.name x) :
    g.Succeeds o.symbol x := by
  obtain ⟨-, p, hp, hname, u, hsymbols⟩ := mem_occurrences.1 ho
  have hempty : g.Derives o.rest [] := by
    rcases (hfirst o.rest (knows_rest hwf ho) emptyMark).1 he with ⟨-, hd⟩ | ⟨hterm, -⟩
    · exact hd
    · exact absurd hterm (Bool.eq_false_iff.1 hmark)
  have hprod : g.Derives [o.name] (u ++ [o.symbol]) := by
    have hd := hempty.append_left (u ++ [o.symbol])
    simp only [List.append_assoc, List.singleton_append, List.append_nil] at hd
    rw [← hname]
    exact (hsymbols ▸ derives_production hp).trans hd
  rcases hx with ⟨hterm, a, v, w, ha, hd⟩ | ⟨rfl, s, v, hs, hd⟩
  · have hin := (hprod.append_left v).append_right (x :: w)
    simp only [List.append_assoc, List.singleton_append] at hin
    rw [← List.append_assoc] at hin
    exact .inl ⟨hterm, a, v ++ u, w, ha, hd.trans hin⟩
  · have hin := hprod.append_left v
    rw [← List.append_assoc] at hin
    exact .inr ⟨rfl, s, v ++ u, hs, hd.trans hin⟩

theorem succeeds_of_mem_followSets {start : String} (hstart : g.start = some start)
    {b x : String} (hx : x ∈ (g.followSets start).1.members b) : g.Succeeds b x := by
  apply of_mem_followSets (F := g.Succeeds) _ _ _ b x hx
  · exact .inr ⟨rfl, start, [], hstart, .refl⟩
  · exact fun o ho x hx hne => succeeds_of_next hwf hfirst ho hx hne
  · exact fun o ho he x hx => succeeds_of_last hwf hmark hfirst ho he hx

end Sound

/-! ### Exactness -/

/-- The stored FOLLOW sets say of every nonterminal what can come after it. -/
def FollowExact (g : Grammar α) : Prop :=
  ∀ b, g.isNonterminal b = true →
    b ∈ g.follow.keys ∧ ∀ x, x ∈ g.follow.members b ↔ g.Succeeds b x

theorem Same.succeeds_iff {g g' : Grammar α} (h : Same g g') (hstart : g'.start = g.start)
    {b x : String} : g'.Succeeds b x ↔ g.Succeeds b x := by
  simp only [Succeeds, h.isTerminal, h.isNonterminal, h.derives_iff, hstart]

theorem same_withFollow (g : Grammar α) (start : String) : Same g (g.withFollow start) :=
  ⟨rfl, rfl, rfl, rfl⟩

section Exact

variable {g : Grammar α} (hwf : WellFormed g) (hmark : g.isTerminal emptyMark = false)
  (hfirst : FirstExact g) {start : String} (hstart : g.start = some start)

include hwf hmark hfirst hstart

theorem followExact_withFollow : FollowExact (g.withFollow start) := by
  intro b hb
  refine ⟨?_, fun x => ?_⟩
  · rw [withFollow, (settled_followSets g start).keep]
    exact mem_keys_initialFollow.2 (.inl hb)
  · rw [(same_withFollow g start).succeeds_iff rfl]
    exact ⟨succeeds_of_mem_followSets hwf hmark hfirst hstart,
      (followClosed_followSets g start).of_succeeds hfirst hmark hwf hstart hb⟩

theorem FollowExact.change (hfollow : FollowExact g) {g' : Grammar α} (hc : Change g g')
    (hs : Same g g') : FollowExact g' := by
  rcases hc.follow_eq_or_stored with he | ⟨start', hstart', rfl⟩
  · intro b hb
    rw [hs.isNonterminal] at hb
    rw [he]
    refine ⟨(hfollow b hb).1, fun x => ?_⟩
    rw [hs.succeeds_iff ((hc.start_kept hwf hstart).trans hstart.symm)]
    exact (hfollow b hb).2 x
  · exact followExact_withFollow hwf hmark hfirst hstart'

theorem followExact_performAll (hfollow : FollowExact g) (calls : List (Call α))
    (hrules : (g.performAll calls).rules.length = g.rules.length) :
    FollowExact (g.performAll calls) := by
  have hrun := performAll_induction_same
    (P := fun g => (g.isTerminal emptyMark = false ∧ FirstExact g) ∧ g.start = some start ∧
      FollowExact g)
    (fun g g' hc hwf hs ⟨⟨hmark, hfirst⟩, hstart, hfollow⟩ =>
      ⟨⟨hs.isTerminal ▸ hmark, hfirst.change hwf hmark hc hs⟩, hc.start_kept hwf hstart,
        hfollow.change hwf hmark hfirst hstart hc hs⟩)
    hwf ⟨⟨hmark, hfirst⟩, hstart, hfollow⟩ calls hrules
  exact hrun.2.2

end Exact

theorem storeFollow_done {g : Grammar α} (h : (g.perform .storeFollow).reply = .ok .done) :
    ∃ start, g.start = some start ∧ (g.perform .storeFollow).grammar = g.withFollow start := by
  have hok : ∀ e, (g.perform .storeFollow).reply ≠ .error e := by
    rw [h]
    exact nofun
  obtain ⟨start, hstart, hperform⟩ := perform_storeFollow_of_not_error hok
  exact ⟨start, hstart, by rw [hperform]⟩

/-- FOLLOW sets that are stored with up-to-date FIRST sets are exact as long as no production is
added: a nonterminal has the terminals that come right after it in what some nonterminal derives,
the end mark if it comes last in what the start symbol derives, and nothing else. -/
theorem follow_exact {names : List String} (hmark : emptyMark ∉ names)
    (before between after : List (Call α)) :
    let g₁ := (ofTerminals names : Grammar α).performAll (before ++ [.storeFirst])
    let stored := (g₁.performAll between).perform .storeFollow
    let g := stored.grammar.performAll after
    stored.reply = .ok .done → g.rules.length = g₁.rules.length →
    ∀ b, g.isNonterminal b = true → ∃ s, g.follow.get? b = some s ∧
      (∀ t, g.isTerminal t = true → t ≠ endMark →
        (t ∈ s ↔ ∃ a u v, g.isNonterminal a = true ∧ g.Derives [a] (u ++ b :: t :: v))) ∧
      (endMark ∈ s ↔
        (∃ start u, g.start = some start ∧ g.Derives [start] (u ++ [b])) ∨
          g.isTerminal endMark = true ∧
            ∃ a u v, g.isNonterminal a = true ∧ g.Derives [a] (u ++ b :: endMark :: v)) ∧
      ∀ x ∈ s, x ≠ emptyMark ∧ (g.isTerminal x = true ∨ x = endMark) := by
  intro g₁ stored g hreply hrules b hb
  have hg₁ : g₁ = ((ofTerminals names : Grammar α).performAll before).withFirst :=
    performAll_append ..
  have hwf₁ : WellFormed g₁ := wellFormed_performAll names _
  have hmark₁ : g₁.isTerminal emptyMark = false := isTerminal_emptyMark hmark _
  have hfirst₁ : FirstExact g₁ :=
    hg₁ ▸ firstExact_withFirst (wellFormed_performAll names before)
      (isTerminal_emptyMark hmark before)
  obtain ⟨start, hstart, hstored⟩ := storeFollow_done hreply
  let g₂ := g₁.performAll between
  let g₃ := g₂.withFollow start
  have hg : g = g₃.performAll after := congrArg (performAll · after) hstored
  have hwf₂ : WellFormed g₂ := hwf₁.performAll between
  have hsame : Same g₂ g₃ := same_withFollow g₂ start
  have hwf₃ : WellFormed g₃ := hwf₂.of_same hsame hwf₂.started
  have hle₁ : g₁.rules.length ≤ g₂.rules.length := length_rules_le_performAll hwf₁ between
  have hle₂ : g₂.rules.length ≤ g.rules.length := hg ▸ length_rules_le_performAll hwf₃ after
  have hrules₂ : g₂.rules.length = g₁.rules.length := by omega
  have hrules₃ : (g₃.performAll after).rules.length = g₃.rules.length :=
    (hg ▸ hrules).trans hrules₂.symm
  obtain ⟨hmark₂, hfirst₂⟩ := hfirst₁.performAll hwf₁ hmark₁ between hrules₂
  have hfirst₃ : FirstExact g₃ := hfirst₂.of_same hsame rfl
  have hmark₃ : g.isTerminal emptyMark = false :=
    hg ▸ (hfirst₃.performAll hwf₃ hmark₂ after hrules₃).1
  have hfollow : FollowExact g :=
    hg ▸ followExact_performAll hwf₃ hmark₂ hfirst₃ hstart
      (followExact_withFollow hwf₂ hmark₂ hfirst₂ hstart) after hrules₃
  obtain ⟨hkey, hmem⟩ := hfollow b hb
  refine ⟨g.follow.members b, SymbolSets.get?_eq_members hkey, fun t ht hne => ?_, ?_,
    fun x hx => ?_⟩
  · rw [hmem, Succeeds]
    simp [ht, hne]
  · rw [hmem, Succeeds]
    simp only [true_and]
    exact or_comm
  · rcases (hmem x).1 hx with ⟨ht, -⟩ | ⟨rfl, -⟩
    · exact ⟨ne_of_isTerminal ht hmark₃, .inl ht⟩
    · exact ⟨by decide, .inr rfl⟩

/-- What follows a nullable symbol follows the one before it. -/
theorem follow_exact_nullable :
    let before : List (Call Unit) := [.addProduction "s" ["a", "b", "C"] none none,
      .addProduction "a" ["A"] none none, .addProduction "b" [] none none,
      .addProduction "b" ["s"] none none]
    let g₁ := (ofTerminals ["A", "C"]).performAll (before ++ [.storeFirst])
    let stored := (g₁.performAll [.augment]).perform .storeFollow
    let g := stored.grammar.performAll []
    emptyMark ∉ ["A", "C"] ∧ stored.reply = .ok .done ∧ g.rules.length = g₁.rules.length ∧
      g.isNonterminal "a" = true ∧
      (∃ a u v, g.isNonterminal a = true ∧ g.Derives [a] (u ++ "a" :: "C" :: v)) ∧
      ¬ ∃ start u, g.start = some start ∧ g.Derives [start] (u ++ ["a"]) := by
  intro before g₁ stored g
  have hmark : emptyMark ∉ ["A", "C"] := by decide
  have hreply : stored.reply = .ok .done := by decide
  have hrules : g.rules.length = g₁.rules.length := by decide
  have ha : g.isNonterminal "a" = true := by decide
  obtain ⟨s, hs, hterm, hend, -⟩ := follow_exact hmark before [.augment] [] hreply hrules "a" ha
  have hmem : "C" ∈ s ∧ endMark ∉ s := by
    obtain rfl : g.follow.members "a" = s := by rw [SymbolSets.members, hs]; rfl
    decide
  exact ⟨hmark, hreply, hrules, ha, (hterm "C" (by decide) (by decide)).1 hmem.1,
    fun hd => hmem.2 (hend.2 (.inl hd))⟩

end FrontEnd.Grammar
