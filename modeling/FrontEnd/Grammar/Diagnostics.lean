import FrontEnd.Grammar.Basic

namespace FrontEnd.Grammar

variable {α : Type}

def unusedIn (t : SymbolTable) : List String :=
  (t.entries.entries.filter (·.2.isEmpty)).map Prod.fst

/-- The terminals that no production uses; the one for errors is not counted. -/
def unusedTerminals (g : Grammar α) : List String := (unusedIn g.terminals).filter (· != errorName)

def unusedNonterminals (g : Grammar α) : List String := unusedIn g.nonterminals

def undefinedNonterminals (g : Grammar α) : List String :=
  g.nonterminals.names.filter fun n => !g.definitions.contains n

end FrontEnd.Grammar
