import FrontEnd.Grammar.Production
import FrontEnd.Grammar.SymbolSets
import FrontEnd.Grammar.SymbolTable

namespace FrontEnd

/-- A grammar with the results of its analysis so far. The terminals are fixed; every other symbol
that a production mentions is a nonterminal. -/
structure Grammar (α : Type) where
  terminals : SymbolTable
  nonterminals : SymbolTable
  /-- Production 0, once the start symbol is set. -/
  augmented : Option (Production α)
  /-- The productions from number 1 on. -/
  rules : List (Production α)
  /-- The productions of each nonterminal that has any. -/
  definitions : OrderedMap String (List Nat)
  precedences : OrderedMap String Precedence
  first : SymbolSets
  follow : SymbolSets
  start : Option String

namespace Grammar

variable {α : Type}

def ofTerminals (names : List String) : Grammar α where
  terminals := ((SymbolTable.ofList names).add errorName).2
  nonterminals := ∅
  augmented := none
  rules := []
  definitions := ∅
  precedences := ∅
  first := ∅
  follow := ∅
  start := none

def isTerminal (g : Grammar α) (symbol : String) : Bool := g.terminals.contains symbol

def isNonterminal (g : Grammar α) (symbol : String) : Bool := g.nonterminals.contains symbol

def production? (g : Grammar α) : Nat → Option (Production α)
  | 0 => g.augmented
  | n + 1 => g.rules[n]?

def productions (g : Grammar α) : List (Production α) := g.augmented.toList ++ g.rules

def productionsFor (g : Grammar α) (name : String) : List Nat := (g.definitions.get? name).getD []

def rightmostTerminal? (g : Grammar α) (symbols : List String) : Option String :=
  symbols.reverse.find? g.isTerminal

/-- The precedence of a new production: that of the term it names, which has to have one, or else
that of its rightmost terminal. -/
def precedenceOf (g : Grammar α) (symbols : List String) (term : Option String) :
    Except BuildError Precedence :=
  match term with
  | some t =>
    match g.precedences.get? t with
    | some p => .ok p
    | none => .error (.unknownPrecedence t)
  | none => .ok (((g.rightmostTerminal? symbols).bind g.precedences.get?).getD default)

def recordUse (g : Grammar α) (number : Nat) (symbol : String) : Grammar α :=
  if g.isTerminal symbol then { g with terminals := g.terminals.record symbol number }
  else { g with nonterminals := g.nonterminals.record symbol number }

end Grammar
end FrontEnd
