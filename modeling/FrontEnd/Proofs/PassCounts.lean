import FrontEnd.Proofs.Follow

namespace FrontEnd.Grammar

variable {α : Type}

/-- Storing the FIRST sets ends after two passes at the most for each nonterminal with a production,
and one, and storing the FOLLOW sets, if it is not refused, after one for each nonterminal, and one.
A further pass would change nothing. -/
theorem passes_bounded (names : List String) (calls : List (Call α)) :
    let g := (ofTerminals names : Grammar α).performAll calls
    let first := g.perform .storeFirst
    let follow := g.perform .storeFollow
    (∃ n, first.reply = .ok .done ∧ first.events = [.firstSettled n] ∧
      SymbolSets.Stops g.firstPass g.initialFirst first.grammar.first n ∧
      first.grammar.firstPass first.grammar.first = first.grammar.first ∧
      n ≤ 2 * g.definedNames.length + 1) ∧
    ((∀ e, follow.reply ≠ .error e) →
      ∃ start n, g.start = some start ∧ follow.reply = .ok .done ∧
        follow.events = [.followSettled n] ∧
        SymbolSets.Stops g.followPass (g.initialFollow start) follow.grammar.follow n ∧
        follow.grammar.followPass follow.grammar.follow = follow.grammar.follow ∧
        n ≤ g.nonterminals.names.length + 1) := by
  intro g first follow
  have hwf : WellFormed g := wellFormed_performAll names calls
  constructor
  · obtain ⟨hstops, hle⟩ := stops_firstSets hwf
    exact ⟨g.firstSets.2, rfl, rfl, hstops, hstops.fixed, hle⟩
  · intro hok
    obtain ⟨start, hstart, hfollow⟩ := perform_storeFollow_of_not_error hok
    obtain ⟨hstops, hle⟩ := stops_followSets g start
    have hpass : (g.withFollow start).followPass = g.followPass :=
      (same_withFollow g start).followPass rfl
    have hfixed : (g.withFollow start).followPass (g.followSets start).1 =
        (g.followSets start).1 := by
      rw [hpass]
      exact hstops.fixed
    refine ⟨start, (g.followSets start).2, hstart, ?_⟩
    rw [show follow = _ from hfollow]
    exact ⟨rfl, rfl, hstops, hfixed, hle⟩

/-- The FIRST sets were stored before the second nonterminal had a production. -/
theorem passes_bounded_stale :
    let calls : List (Call Unit) := [.addProduction "s" ["a", "s"] none none, .storeFirst,
      .addProduction "a" ["A"] none none, .addProduction "s" [] none none, .augment]
    let g := (ofTerminals ["A"]).performAll calls
    let follow := g.perform .storeFollow
    (∀ e, follow.reply ≠ .error e) ∧
      ∃ start n, g.start = some start ∧ follow.events = [.followSettled n] ∧
        follow.grammar.followPass follow.grammar.follow = follow.grammar.follow ∧ n ≤ 3 := by
  intro calls g follow
  have hok : ∀ e, follow.reply ≠ .error e := by
    intro e
    rw [show follow.reply = .ok .done by decide]
    exact nofun
  obtain ⟨start, n, hstart, -, hevents, -, hfixed, hle⟩ :=
    (passes_bounded ["A"] calls).2 hok
  exact ⟨hok, start, n, hstart, hevents, hfixed, hle⟩

end FrontEnd.Grammar
