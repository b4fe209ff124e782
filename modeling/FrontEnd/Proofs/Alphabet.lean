import FrontEnd.Assembly
import FrontEnd.Proofs.First
import FrontEnd.Proofs.Rests

namespace FrontEnd

namespace Lexer

theorem Comes.exists_rule {s : Stream} {k k' : Cursor} {t : Token} {x : Lexeme}
    (h : Comes s k (.token t x) k') : ∃ r ∈ s.lexer.rules, t.kind = r.name := by
  cases h with
  | token _ hfirst => exact ⟨_, hfirst.spec.1, rfl⟩

theorem kind_mem (l : Lexer) (input : String) (n : Nat) {t : Token} {x : Lexeme}
    (h : ((l.lex input).after n).pull.outcome = .token t x) : t.kind ∈ l.rules.map Rule.name := by
  obtain ⟨k, -, hcomes, -⟩ := pull_cases ((l.lex input).after n)
  rw [h] at hcomes
  obtain ⟨r, hr, hkind⟩ := hcomes.exists_rule
  rw [lexer_after] at hr
  exact List.mem_map.2 ⟨r, hr, hkind.symm⟩

end Lexer

namespace Assembly

variable {α : Type}

/-- A lexer and a grammar over its tokens agree on the alphabet. Whatever is done to the grammar,
every token of every stream has a terminal for its kind, which is no nonterminal; and once the FIRST
sets have been stored, the set of the kind has the kind and nothing else. -/
theorem alphabets_agree (l : Lexer) (before after : List (Grammar.Call α)) (input : String)
    (n : Nat) {t : Token} {x : Lexeme} (h : ((l.lex input).after n).pull.outcome = .token t x) :
    let g := (grammarOver l).performAll (before ++ .storeFirst :: after)
    g.isTerminal t.kind = true ∧ g.isNonterminal t.kind = false ∧
      g.first.get? t.kind = some (.singleton t.kind) := by
  intro g
  have hwf : g.WellFormed := Grammar.wellFormed_performAll _ _
  have hterminal : g.isTerminal t.kind = true :=
    (Grammar.isTerminal_performAll _ _ _).2 (.inl (l.kind_mem input n h))
  exact ⟨hterminal, hwf.disjoint _ hterminal,
    Grammar.terminalsFirst_performAll _ before after _ hterminal⟩

/-- The rules are called like the marks, and two of them like the terminal for errors. -/
def marks : Lexer :=
  { rules := [⟨Grammar.emptyMark, Lexer.only 'a'⟩, ⟨Grammar.errorName, Lexer.only 'b'⟩,
      ⟨Grammar.endMark, Lexer.only 'c'⟩, ⟨Grammar.errorName, Lexer.only 'd'⟩] }

theorem alphabets_agree_marks :
    let calls : List (Grammar.Call Unit) := [.addProduction "s" ["t", Grammar.endMark] none none,
      .addProduction "t" [Grammar.emptyMark, "s"] none none, .addProduction "t" [] none none]
    let g := (grammarOver marks).performAll (calls ++ .storeFirst :: calls)
    let t : Token := ⟨Grammar.emptyMark, "a", some ⟨0, 1, 1⟩⟩
    ((marks.lex "ab").after 0).pull.outcome = .token t ⟨0, 1, "a"⟩ ∧
      g.isTerminal t.kind = true ∧ g.isNonterminal t.kind = false ∧
      g.first.get? t.kind = some (.singleton Grammar.emptyMark) := by
  intro calls g t
  have hpull := Lexer.Stream.pull_of_hit (s := marks.lex "ab")
    (r := ⟨Grammar.emptyMark, Lexer.only 'a'⟩) (n := 1) (by decide) rfl rfl
  have htoken : ((marks.lex "ab").after 0).pull.outcome = .token t ⟨0, 1, "a"⟩ :=
    congrArg Lexer.Pull.outcome hpull
  exact ⟨htoken, alphabets_agree marks calls calls "ab" 0 htoken⟩

end Assembly

end FrontEnd
