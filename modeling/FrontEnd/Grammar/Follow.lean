import FrontEnd.Grammar.First

namespace FrontEnd.Grammar

open Update

variable {α : Type}

structure Occurrence where
  name : String
  symbol : String
  rest : List String

def occurrencesIn (g : Grammar α) (name : String) : List String → List Occurrence
  | [] => []
  | b :: rest =>
    if g.isNonterminal b then ⟨name, b, rest⟩ :: g.occurrencesIn name rest
    else g.occurrencesIn name rest

def occurrences (g : Grammar α) : List Occurrence :=
  g.rules.flatMap fun p => g.occurrencesIn p.name p.symbols

/-- What an occurrence adds: the FIRST set of what follows, without the mark of the empty sequence,
and if that has the mark, what follows the left-hand side. -/
def followStep (g : Grammar α) (m : SymbolSets) (o : Occurrence) : SymbolSets :=
  let next := g.firstOf o.rest
  -- the left-hand side may be the symbol itself: its set is read after this
  let m := m.extend o.symbol (next.toList.filter (· != emptyMark))
  if emptyMark ∈ next then m.extend o.symbol (m.members o.name).toList else m

def followPass (g : Grammar α) (m : SymbolSets) : SymbolSets := g.occurrences.foldl g.followStep m

def initialFollow (g : Grammar α) (start : String) : SymbolSets :=
  (OrderedMap.ofList (g.nonterminals.names.map (·, ∅))).insert start (.singleton endMark)

def followSets (g : Grammar α) (start : String) : SymbolSets × Nat :=
  SymbolSets.settle g.followPass (g.passLimit (g.initialFollow start)) (g.initialFollow start)

/-- Stores the FOLLOW sets. It needs a start symbol and the FIRST sets. -/
def storeFollow : Update α Unit := do
  let some start := (← current).start | throw .noStartSymbol
  if (← current).first.isEmpty then throw .firstNotComputed
  let (follow, passes) := (← current).followSets start
  log (.followSettled passes)
  change fun g => { g with follow }

end FrontEnd.Grammar
