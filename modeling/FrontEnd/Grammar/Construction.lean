import FrontEnd.Grammar.Update

namespace FrontEnd.Grammar

open Update

variable {α : Type}

def addProduction (name : String) (symbols : List String) (action : Option α)
    (term : Option String) : Update α Nat := do
  let g ← current
  if g.isTerminal name then throw (.illegalRuleName name)
  let precedence ← ofExcept (g.precedenceOf symbols term)
  let number := g.rules.length + 1
  change fun g => { g with nonterminals := (g.nonterminals.add name).2 }
  symbols.forM fun symbol => change (·.recordUse number symbol)
  let p : Production α := ⟨number, name, symbols, precedence, action, []⟩
  log (.productionAdded number (toString p) precedence)
  change fun g => { g with rules := g.rules ++ [p] }
  change fun g =>
    { g with definitions := g.definitions.update name fun ns => ns.getD [] ++ [number] }
  return number

def declarePrecedence (term assoc : String) (level : Nat) : Update α Unit := do
  if (← current).precedences.contains term then throw (.precedenceRedefined term)
  let assoc ← ofExcept (Assoc.ofText assoc)
  change fun g => { g with precedences := g.precedences.insert term ⟨assoc, level⟩ }

/-- Makes the left-hand side of the first production the start symbol, and a new production 0 that
leads to it. Its use by production 0 is recorded once. -/
def augment : Update α Unit := do
  let some p := (← current).rules.head? | throw .emptyGrammar
  let start := p.name
  change fun g => { g with augmented := some ⟨0, augmentedName, [start], default, none, []⟩ }
  unless ((← current).nonterminals.uses? start).any (·.contains 0) do
    change fun g => { g with nonterminals := g.nonterminals.record start 0 }
  log (.startSet start)
  change fun g => { g with start := some start }

end FrontEnd.Grammar
