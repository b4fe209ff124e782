import FrontEnd.Proofs.References
import FrontEnd.Proofs.Replies

namespace FrontEnd

/-- The precedence that is due to a production: what is declared for the term that it names, or if
it names none, for the last of its terminals; otherwise the usual one. -/
inductive Precedence.Due (terminal : String → Prop) (declared : String → Precedence → Prop) :
    List String → Option String → Precedence → Prop where
  | named {symbols t p} (h : declared t p) : Due terminal declared symbols (some t) p
  | inherited {u t v p} (ht : terminal t) (hlast : ∀ x ∈ v, ¬ terminal x) (h : declared t p) :
      Due terminal declared (u ++ t :: v) none p
  | undeclared {u t v} (ht : terminal t) (hlast : ∀ x ∈ v, ¬ terminal x)
      (h : ∀ p, ¬ declared t p) : Due terminal declared (u ++ t :: v) none ⟨.right, 0⟩
  | noTerminal {symbols} (h : ∀ x ∈ symbols, ¬ terminal x) :
      Due terminal declared symbols none ⟨.right, 0⟩

namespace Grammar

variable {α : Type}

/-! ### What is due -/

theorem rightmostTerminal?_eq_some {g : Grammar α} {symbols : List String} {t : String} :
    g.rightmostTerminal? symbols = some t ↔
      g.isTerminal t = true ∧ ∃ u v, symbols = u ++ t :: v ∧ ∀ x ∈ v, ¬ g.isTerminal x = true := by
  rw [rightmostTerminal?, List.find?_eq_some_iff_append]
  apply and_congr_right'
  constructor
  · rintro ⟨v, u, hsplit, hlast⟩
    refine ⟨u.reverse, v.reverse, ?_, fun x hx => ?_⟩
    · rw [← List.reverse_reverse symbols, hsplit]
      simp
    · simpa using hlast x (List.mem_reverse.1 hx)
  · rintro ⟨u, v, rfl, hlast⟩
    refine ⟨v.reverse, u.reverse, by simp, fun x hx => ?_⟩
    simpa using hlast x (List.mem_reverse.1 hx)

theorem rightmostTerminal?_eq_none {g : Grammar α} {symbols : List String} :
    g.rightmostTerminal? symbols = none ↔ ∀ x ∈ symbols, ¬ g.isTerminal x = true := by
  simp [rightmostTerminal?]

/-- A new production gets what is due to it by the precedences that the grammar has. -/
theorem precedenceOf_eq_ok {g : Grammar α} {symbols : List String} {term : Option String}
    {q : Precedence} :
    g.precedenceOf symbols term = .ok q ↔
      Precedence.Due (g.isTerminal · = true) (fun t p => g.precedences.get? t = some p) symbols term
        q := by
  constructor
  · intro h
    cases term with
    | some t =>
      rw [precedenceOf] at h
      split at h
      · rename_i hp
        exact .named (hp.trans (congrArg some (Except.ok.inj h)))
      · contradiction
    | none =>
      obtain rfl := Except.ok.inj h
      cases hlast : g.rightmostTerminal? symbols with
      | none => exact .noTerminal (rightmostTerminal?_eq_none.1 hlast)
      | some t =>
        obtain ⟨ht, u, v, rfl, hv⟩ := rightmostTerminal?_eq_some.1 hlast
        cases hp : g.precedences.get? t with
        | none =>
          rw [Option.bind_some, hp]
          exact .undeclared ht hv fun p h => by simp [hp] at h
        | some p =>
          rw [Option.bind_some, hp]
          exact .inherited ht hv hp
  · intro h
    cases h with
    | named h => rw [precedenceOf, h]
    | inherited ht hv h =>
      rw [precedenceOf, rightmostTerminal?_eq_some.2 ⟨ht, _, _, rfl, hv⟩, Option.bind_some, h]
      rfl
    | @undeclared u t v ht hv h =>
      rw [precedenceOf, rightmostTerminal?_eq_some.2 ⟨ht, _, _, rfl, hv⟩, Option.bind_some,
        Option.eq_none_iff_forall_ne_some.2 h]
      rfl
    | noTerminal h =>
      rw [precedenceOf, rightmostTerminal?_eq_none.2 h]
      rfl

/-! ### Declarations -/

def DeclaresAs (g : Grammar α) (calls : List (Call α)) (term : String) (p : Precedence) : Prop :=
  .declarePrecedence term p.assoc.text p.level ∈ g.construction calls

theorem declaresAs_cons {g : Grammar α} {c : Call α} {calls : List (Call α)} {term : String}
    {p : Precedence} :
    g.DeclaresAs (c :: calls) term p ↔
      (.declarePrecedence term p.assoc.text p.level = c ∧ (g.perform c).reply.isOk = true) ∨
        (g.perform c).grammar.DeclaresAs calls term p := by
  rw [DeclaresAs, mem_construction_cons]
  apply or_congr_left
  constructor
  · rintro ⟨rfl, -, hok⟩
    exact ⟨rfl, hok⟩
  · rintro ⟨rfl, hok⟩
    exact ⟨rfl, rfl, hok⟩

theorem get?_precedences_perform (g : Grammar α) (c : Call α) (term : String) (p : Precedence) :
    (g.perform c).grammar.precedences.get? term = some p ↔
      (.declarePrecedence term p.assoc.text p.level = c ∧ (g.perform c).reply.isOk = true) ∨
        g.precedences.get? term = some p := by
  have heffect := effect_perform g c
  generalize (g.perform c).reply = reply, (g.perform c).grammar = g' at heffect ⊢
  cases heffect with
  | @declared term' assoc level a hterm hassoc =>
    rw [Grammar.declared, OrderedMap.get?_insert]
    by_cases ht : term = term'
    · subst ht
      rw [OrderedMap.contains_eq_isSome, Option.isSome_eq_false_iff, Option.isNone_iff_eq_none]
        at hterm
      obtain ⟨passoc, plevel⟩ := p
      subst hassoc
      rw [if_pos rfl, hterm]
      constructor
      · rintro ⟨⟩
        exact .inl ⟨rfl, rfl⟩
      · rintro (⟨hc, -⟩ | h)
        · simp only [Call.declarePrecedence.injEq, true_and] at hc
          rw [Assoc.text_injective hc.1, hc.2]
        · contradiction
    · simp [ht]
  | redefined | invalidAssoc => simp [Except.isOk, Except.toBool]
  | lookaheads hitem =>
    rw [editLookaheads_eq_some hitem]
    simp
  | _ => simp [Grammar.added, augmentedWith, withFirst, withFollow, buildItems]

theorem get?_precedences_performAll (g : Grammar α) (calls : List (Call α)) (term : String)
    (p : Precedence) :
    (g.performAll calls).precedences.get? term = some p ↔
      g.DeclaresAs calls term p ∨ g.precedences.get? term = some p := by
  induction calls generalizing g with
  | nil => simp [DeclaresAs, construction]
  | cons c calls ih =>
    rw [performAll_cons, ih, get?_precedences_perform, declaresAs_cons, or_left_comm, or_assoc]

/-! ### Productions and the calls that add them -/

theorem Same.production?_bare {g g' : Grammar α} (h : Same g g') (n : Nat) :
    (g'.production? (n + 1)).map Production.bare = (g.production? (n + 1)).map Production.bare := by
  show g'.rules[n]?.map _ = g.rules[n]?.map _
  rw [← List.getElem?_map, ← List.getElem?_map, h.rules]

/-- What is under a number after a call was there before, or is what the call has added. -/
theorem production?_perform {g : Grammar α} (h : WellFormed g) {c : Call α} {n : Nat}
    {p : Production α} (hp : (g.perform c).grammar.production? (n + 1) = some p) :
    (∃ q, g.production? (n + 1) = some q ∧ q.bare = p.bare) ∨
      ∃ term, c = .addProduction p.name p.symbols p.action term ∧
        (g.perform c).reply = .ok (.number (n + 1)) := by
  cases hc : c.adds with
  | false =>
    have hsame := (same_perform h hc).production?_bare n
    rw [hp, Option.map_some] at hsame
    exact .inl (Option.map_eq_some_iff.1 hsame.symm)
  | true =>
    have heffect := effect_perform g c
    generalize (g.perform c).reply = reply, (g.perform c).grammar = g' at heffect hp ⊢
    cases heffect with
    | illegalName | unknownTerm => exact .inl ⟨p, hp, rfl⟩
    | @added name symbols action term precedence =>
      change (g.rules ++ [_])[n]? = some p at hp
      rw [List.getElem?_append] at hp
      split at hp
      · exact .inl ⟨p, hp, rfl⟩
      · rename_i hn
        obtain ⟨hlast, rfl⟩ := List.getElem?_eq_some_iff.1 hp
        obtain rfl : n = g.rules.length := by
          rw [List.length_singleton] at hlast
          omega
        exact .inr ⟨term, by simp, rfl⟩
    | _ => contradiction

/-- Every production has been added by a call, which answered its number. -/
theorem exists_call_of_production? (names : List String) (calls : List (Call α)) {n : Nat}
    {p : Production α}
    (hp : ((ofTerminals names).performAll calls).production? (n + 1) = some p) :
    ∃ before after term, calls = before ++ .addProduction p.name p.symbols p.action term :: after ∧
      (((ofTerminals names).performAll before).perform
        (.addProduction p.name p.symbols p.action term)).reply = .ok (.number (n + 1)) := by
  induction calls using List.reverseRecOn generalizing p with
  | nil => contradiction
  | append_singleton calls c ih =>
    rw [performAll_append, performAll_cons, performAll_nil] at hp
    rcases production?_perform (wellFormed_performAll names calls) hp with
      ⟨q, hq, hbare⟩ | ⟨term, rfl, hreply⟩
    · obtain ⟨before, after, term, rfl, hreply⟩ := ih hq
      simp only [Production.bare, Production.mk.injEq] at hbare
      obtain ⟨-, hname, hsymbols, -, haction, -⟩ := hbare
      rw [hname, hsymbols, haction] at hreply ⊢
      exact ⟨before, after ++ [c], term, by simp, hreply⟩
    · exact ⟨calls, [], term, rfl, hreply⟩

theorem production?_of_added {g : Grammar α} {name : String} {symbols : List String}
    {action : Option α} {term : Option String} {n : Nat}
    (hreply : (g.perform (.addProduction name symbols action term)).reply = .ok (.number n)) :
    ∃ q, g.precedenceOf symbols term = .ok q ∧
      (g.perform (.addProduction name symbols action term)).grammar.production? n =
        some ⟨n, name, symbols, q, action, []⟩ := by
  have heffect := effect_addProduction g name symbols action term
  generalize (g.perform _).reply = reply, (g.perform _).grammar = g' at heffect hreply ⊢
  cases heffect with
  | illegalName | unknownTerm => contradiction
  | added hname hprec =>
    cases hreply
    exact ⟨_, hprec, List.getElem?_concat_length⟩

/-- After any calls, a production has the precedence that was due to it when it was added, by the
terminals and by what calls had declared until then, and no other is due to it. Every production has
been added by a call, but for production 0, which has the usual precedence. No later call changes
the precedence of a production or of a term. -/
theorem precedences_fixed (names : List String) (calls : List (Call α)) :
    let g₀ := (ofTerminals names : Grammar α)
    let g := g₀.performAll calls
    (∀ before after name symbols action term n,
      calls = before ++ .addProduction name symbols action term :: after →
      ((g₀.performAll before).perform (.addProduction name symbols action term)).reply =
        .ok (.number n) →
      ∃ p, g.production? n = some p ∧ p.name = name ∧ p.symbols = symbols ∧
        ∀ q, Precedence.Due (fun x => x ∈ names ∨ x = errorName) (g₀.DeclaresAs before) symbols term
          q ↔ p.precedence = q) ∧
    (∀ n p, g.production? (n + 1) = some p → ∃ before after term,
      calls = before ++ .addProduction p.name p.symbols p.action term :: after ∧
      ((g₀.performAll before).perform (.addProduction p.name p.symbols p.action term)).reply =
        .ok (.number (n + 1))) ∧
    (∀ p, g.production? 0 = some p → p.precedence = ⟨.right, 0⟩) ∧
    (∀ t p, g.precedences.get? t = some p ↔ g₀.DeclaresAs calls t p) ∧
    ∀ later,
      (∀ n p, g.production? n = some p →
        ∃ q, (g.performAll later).production? n = some q ∧ q.precedence = p.precedence) ∧
      ∀ t p, g.precedences.get? t = some p → (g.performAll later).precedences.get? t = some p := by
  intro g₀ g
  have hterminal (calls : List (Call α)) :
      (fun x => x ∈ names ∨ x = errorName) = ((g₀.performAll calls).isTerminal · = true) := by
    funext x
    exact propext (isTerminal_performAll names calls x).symm
  have hdeclared (calls : List (Call α)) :
      g₀.DeclaresAs calls = fun t p => (g₀.performAll calls).precedences.get? t = some p := by
    funext t p
    exact propext ((get?_precedences_performAll g₀ calls t p).trans (or_iff_left nofun)).symm
  have hheaded : Headed g := headed_performAll names calls
  have h : WellFormed g := wellFormed_performAll names calls
  refine ⟨fun before after name symbols action term n hcalls hreply => ?_,
    fun n p hp => exists_call_of_production? names calls hp, fun p hp => ?_, fun t p => ?_,
    fun later => ⟨fun n p hp => ?_, fun t p hp => ?_⟩⟩
  · -- the production is there from now on, and what is due to it was decided by the grammar so far
    have hrun : g = ((g₀.performAll before).perform
        (.addProduction name symbols action term)).grammar.performAll after := by
      rw [← performAll_cons, ← performAll_append, ← hcalls]
    have hnext := change_perform (g₀.performAll before) (.addProduction name symbols action term)
    have hbefore : WellFormed (g₀.performAll before) := wellFormed_performAll names before
    have hheaded' := (headed_performAll names before).change hnext
    obtain ⟨q, hq, hp⟩ := production?_of_added hreply
    obtain ⟨p, hp, hbare⟩ := (hbefore.change hnext).production?_performAll hheaded' after hp
    simp only [Production.bare, Production.mk.injEq] at hbare
    obtain ⟨-, hname, hsymbols, hprec, -⟩ := hbare
    refine ⟨p, hrun ▸ hp, hname, hsymbols, fun q' => ?_⟩
    rw [hterminal before, hdeclared before, ← precedenceOf_eq_ok, hq, Except.ok.injEq, hprec]
  · have haugmented : g.augmented = some p := hp
    rw [Headed, haugmented, Option.map_some] at hheaded
    obtain ⟨s, -, hs⟩ := Option.map_eq_some_iff.1 hheaded.symm
    exact (congrArg Production.precedence hs).symm
  · rw [hdeclared calls]
  · obtain ⟨q, hq, hbare⟩ := h.production?_performAll hheaded later hp
    simp only [Production.bare, Production.mk.injEq] at hbare
    exact ⟨q, hq, hbare.2.2.2.1⟩
  · exact (get?_precedences_performAll g later t p).2 (.inr hp)

/-- The last terminal counts though only the one before it has a precedence, and what is declared
for it later comes too late. -/
theorem precedences_fixed_undeclared :
    let before : List (Call Unit) := [.declarePrecedence "A" "left" 1,
      .declarePrecedence "A" "right" 2]
    let c : Call Unit := .addProduction "e" ["e", "A", "B", "e"] none none
    let after : List (Call Unit) := [.declarePrecedence "B" "nonassoc" 3, .augment]
    let g := (ofTerminals ["A", "B"]).performAll (before ++ c :: after)
    (((ofTerminals ["A", "B"]).performAll before).perform c).reply = .ok (.number 1) ∧
      (∃ p, g.production? 1 = some p ∧ p.precedence = ⟨.right, 0⟩) ∧
      g.precedences.get? "A" = some ⟨.left, 1⟩ ∧ g.precedences.get? "B" = some ⟨.nonassoc, 3⟩ := by
  intro before c after g
  have hreply : (((ofTerminals ["A", "B"]).performAll before).perform c).reply = .ok (.number 1) :=
    rfl
  have hmade : (ofTerminals ["A", "B"]).construction before = [.declarePrecedence "A" "left" 1] :=
    rfl
  obtain ⟨p, hp, -, -, hdue⟩ :=
    (precedences_fixed ["A", "B"] (before ++ c :: after)).1 before after _ _ _ _ 1 rfl hreply
  refine ⟨hreply, ⟨p, hp, (hdue _).1 ?_⟩, rfl, rfl⟩
  apply Precedence.Due.undeclared (u := ["e", "A"]) (t := "B") (v := ["e"])
  · decide
  · decide
  · intro p hp
    rw [DeclaresAs, hmade] at hp
    simp at hp

end Grammar
end FrontEnd
